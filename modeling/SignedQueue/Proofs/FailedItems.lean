import Mathlib
import SignedQueue.Queue.Operations
import SignedQueue.Proofs.AnsweredCall
import SignedQueue.Proofs.Refusals
import SignedQueue.Proofs.WrittenBatch
/-!
**No item that was not deleted goes unreported.** Where the service refuses to delete some messages
of a batch and lists them, the call fails with this list, in order and item by item. Where it lists
nothing, the call fails as the error envelope says.

* `ItemFailure.IsLaidOut`: the fields of a failed item in any order;
* `Queue.deleteRefusal_batch`, `Queue.deleteRefusal_of_name_ne`: what the response of a service says
  that lists failed items, and of one that does not;
* `Queue.deletion_reports_failures`: what a call to delete messages comes to.
-/

namespace SignedQueue

open Markup

/-! ### Failed items -/

namespace ItemFailure

variable {layout : List Field} {failure : ItemFailure}

/-- The fields of a failed item. -/
def fields (failure : ItemFailure) : List Field :=
  [ .text "ErrorCode" (some failure.code),
    .text "ErrorMessage" (some failure.message),
    .text "ReceiptHandle" failure.key ]

/-- The fields of a failed item in any order, where no blanks stand around its texts. -/
structure IsLaidOut (layout : List Field) (failure : ItemFailure) : Prop where
  order : layout.Perm failure.fields
  code : Unpadded failure.code
  message : Unpadded failure.message
  key : ∀ handle ∈ failure.key, Unpadded handle

/-- The names of the fields of a failed item. -/
def fieldNames : List String :=
  ["ErrorCode", "ErrorMessage", "ReceiptHandle"]

theorem names_fields (failure : ItemFailure) : failure.fields.map Field.name = fieldNames :=
  rfl

theorem IsLaidOut.plain (laid : IsLaidOut layout failure) :
    ∀ field ∈ layout, IsPlainName field.name := by
  apply Field.plain_of_perm laid.order
  rw [names_fields]
  decide

/-- A failed item is read from its fields in any order. -/
theorem IsLaidOut.itemFailure_eq (laid : IsLaidOut layout failure) :
    Queue.itemFailure (Element.ofFields "Error" layout) = failure := by
  have distinct : (failure.fields.map Field.name).Nodup := by
    rw [names_fields]
    decide
  have shown {name : String} {value : Option String} (member : ⟨name, value⟩ ∈ failure.fields)
      (unpadded : ∀ text ∈ value, Unpadded text) : Field.shown? name layout = value :=
    Field.shown?_of_perm distinct laid.order member unpadded
  have code : Field.shown? "ErrorCode" layout = some failure.code :=
    shown (by simp [fields, Field.text]) (by simpa using laid.code)
  have message : Field.shown? "ErrorMessage" layout = some failure.message :=
    shown (by simp [fields, Field.text]) (by simpa using laid.message)
  have key : Field.shown? "ReceiptHandle" layout = failure.key :=
    shown (by simp [fields, Field.text]) laid.key
  simp only [Queue.itemFailure, Element.textOr_ofFields, code, message, key, Option.some_or,
    Option.or_none, Option.getD_some]

end ItemFailure

/-! ### Deleting messages -/

namespace Queue

variable {response : Response}

/-- What a response says that lists failed items. -/
theorem deleteRefusal_batch {layouts : List (List Field)} {failures : List ItemFailure}
    (written : response.body = Utf8.encode (Document.writeBatch "Errors" "Error" layouts))
    (laid : List.Forall₂ ItemFailure.IsLaidOut layouts failures) :
    deleteRefusal response =
      .failed
        { kind := .mandatoryHandling
          message := toString failures.length ++ " receipt handles failed to delete"
          requestId := response.header? Response.requestIdHeader
          context := [response.statusLine]
          failures } := by
  have plain := Field.plain_of_forall₂ (fun _ _ => ItemFailure.IsLaidOut.plain) laid
  have plainRoot : IsPlainName "Errors" := by decide
  have plainName : IsPlainName "Error" := by decide
  have listed : (layouts.map (Element.ofFields "Error")).map itemFailure = failures := by
    have each := laid.imp fun _ _ laid => laid.itemFailure_eq
    rw [List.map_map, ← List.forall₂_eq_eq_eq, List.forall₂_map_left_iff]
    exact each
  rw [deleteRefusal, written, Element.parse_writeBatch plainRoot plainName plain]
  show (if ("Errors" : String) = "Errors" then _ else _) = _
  rw [if_pos rfl, batchFailure, Element.childrenNamed_batch, listed]

/-- What any other response says is what its error envelope says. -/
theorem deleteRefusal_of_name_ne
    (unlisted : ∀ root, Element.parse response.body = .ok root → root.name ≠ "Errors") :
    deleteRefusal response = response.refusal := by
  unfold deleteRefusal
  cases parsed : Element.parse response.body with
  | error fault => rfl
  | ok root => exact if_neg (unlisted root parsed)

/-- **Every item that was not deleted is reported.** A call whose response lists failed items fails
with all of them, in order, and with the id that the service gives the request, if it gives one; its
own id is not put there. A call whose response reports a failure without such a list fails as the
error envelope says, or as its reader breaks down, and never with failed items. -/
theorem deletion_reports_failures (client : Client) (requestId : Option String)
    (request : DeleteRequest) (response : Response) (failed : response.status.isSuccess = false) :
    let action : Action DeleteRequest Unit Unit := ⟨deleteMessages, client, requestId⟩
    (∀ layouts failures,
      response.body = Utf8.encode (Document.writeBatch "Errors" "Error" layouts) →
        List.Forall₂ ItemFailure.IsLaidOut layouts failures →
          action.Resolves request response
            (.error
              { kind := .mandatoryHandling
                message := toString failures.length ++ " receipt handles failed to delete"
                requestId := response.header? Response.requestIdHeader
                context := [response.statusLine]
                failures })) ∧
    ((∀ root, Element.parse response.body = .ok root → root.name ≠ "Errors") →
      (∀ error, response.refusal = .failed error → error.kind ≠ .mandatoryHandling ∧
        action.Resolves request response
          (.error (if error.isLocal then error.orRequestId requestId else error))) ∧
      ∀ said, response.refusal = .brokeDown said →
        action.Resolves request response
          (.error
            { kind := .unexpected
              message := said.getD "call panicked"
              requestId
              context := ["action: " ++ deleteMessages.name] })) := by
  intro action
  have notes : action.operation.Notes request () := fun _ _ _ => rfl
  have resolves := Action.resolves_readReply notes response
  have reads : action.operation.readReply () response = .error (deleteRefusal response) := by
    rw [Operation.readReply, failed]
    rfl
  rw [reads] at resolves
  refine ⟨fun layouts failures written laid => ?_, fun unlisted => ?_⟩
  · rw [deleteRefusal_batch written laid] at resolves
    exact resolves
  · rw [deleteRefusal_of_name_ne unlisted] at resolves
    refine ⟨fun error refused => ?_, fun said refused => ?_⟩
    · rw [refused] at resolves
      refine ⟨?_, resolves⟩
      rcases Response.kind_refusal refused with kind | kind <;> simp [kind]
    · rw [refused] at resolves
      exact resolves

/-- A failed item whose message looks like markup. -/
def lost : ItemFailure where
  code := "MessageNotExist"
  message := "<ReceiptHandle> & more"
  key := some "1"

/-- A failed item without a handle. -/
def nameless : ItemFailure where
  code := "InternalError"
  message := ""
  key := none

/-- A response that lists some failed items. -/
def listing (layouts : List (List Field)) : Response where
  status := ⟨404⟩
  headers := [("X-Mns-Request-Id", Utf8.encode "R1")]
  body := Utf8.encode (Document.writeBatch "Errors" "Error" layouts)

/-- A response that lists nothing. -/
def busy : Response where
  status := ⟨503⟩
  headers := []
  body := Utf8.encode "<Error><Code>Busy</Code></Error>"

/-- One failed item is listed twice, and one has no handle. Only the service's own id goes with what
the service says. -/
theorem deletion_reports_failures_repeated :
    let action : Action DeleteRequest Unit Unit :=
      ⟨deleteMessages, Action.openClient, some "own"⟩
    let answered (response : Response) : Action.Execution Unit :=
      action.execute 0 false [] (some (.ok response))
        { queueName := "queue", receiptHandles := ["1", "2", "1"] } {}
    (answered (listing [lost.fields.reverse, nameless.fields, lost.fields])).result =
        .error
          { kind := .mandatoryHandling
            message := "3 receipt handles failed to delete"
            requestId := some "R1"
            context := ["status: 404 Not Found"]
            failures := [lost, nameless, lost] } ∧
      (answered busy).result =
        .error
          { kind := .service
            code := "Busy"
            message := ""
            context := ["status: 503 Service Unavailable"] } := by
  intro action answered
  have listed : List.Forall₂ ItemFailure.IsLaidOut
      [lost.fields.reverse, nameless.fields, lost.fields] [lost, nameless, lost] := by
    refine .cons ⟨List.reverse_perm _, ?_, ?_, ?_⟩ (.cons ⟨.refl _, ?_, ?_, nofun⟩
      (.cons ⟨.refl _, ?_, ?_, ?_⟩ .nil))
    all_goals decide
  have shown : Element.parse busy.body = .ok (.mk "Error" "" [.mk "Code" "Busy" []]) := by cbv
  have unlisted : ∀ root, Element.parse busy.body = .ok root → root.name ≠ "Errors" := by
    intro root parsed
    obtain rfl := Except.ok.inj (shown.symm.trans parsed)
    decide
  have refused : busy.refusal = .failed
      { kind := .service
        code := "Busy"
        message := ""
        context := ["status: 503 Service Unavailable"] } := by cbv
  have reports (response : Response) := deletion_reports_failures Action.openClient (some "own")
    { queueName := "queue", receiptHandles := ["1", "2", "1"] } response
  constructor
  · have written (layouts : List (List Field)) : (listing layouts).body =
        Utf8.encode (Document.writeBatch "Errors" "Error" layouts) := by
      rw [listing]
    have resolves := (reports (listing _) rfl).1 _ _ (written _) listed
    refine (resolves.executed 0 false [] {} (by decide +kernel)).trans ?_
    decide +kernel
  · have resolves := (((reports busy rfl).2 unlisted).1 _ refused).2
    exact resolves.executed 0 false [] {} (by decide +kernel)

end Queue

end SignedQueue

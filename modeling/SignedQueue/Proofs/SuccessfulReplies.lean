import Mathlib
import SignedQueue.Queue.Client
import SignedQueue.Proofs.AnsweredCall
import SignedQueue.Proofs.ReceivedBatch
import SignedQueue.Proofs.RequestPaths
/-!
**A success is read as what its response tells, or its response cannot be read.** An operation asks
a successful response for what it needs, and for more that may be absent. What is absent is not made
up, and what is there and malformed is never taken for absent.

* `AccountAttributes.IsToldBy`, `QueueAttributes.IsToldBy`, `MessageReceipt.IsToldBy`,
  `ReceivedMessage.AreToldBy`: what an element has to say for a value to be read from it;
* `Attempt.Reads`: a reading that gives exactly the values that are told;
* `QueueRequest.IsTold`: what a response has to say for the value of any request;
* `QueueRequest.success_is_told_or_unparsable`: the value that is told, or an error of this side.
-/

namespace SignedQueue

open Markup

namespace Queue

open ReceivedMessage (SpellsCount SpellsTime)

/-! ### What an element tells -/

/-- A text that spells a truth value, in letters of any case. -/
def SpellsTruth (text : String) (value : Bool) : Prop :=
  Ascii.lower text = if value then "true" else "false"

namespace AccountAttributes

/-- What an element has to say for the attributes of an account to be read from it. -/
def IsToldBy (root : Element) (attributes : AccountAttributes) : Prop :=
  root.says? "LoggingBucket" = attributes.loggingBucket

theorem ofElement_eq_iff_isToldBy {root : Element} {attributes : AccountAttributes} :
    ofElement root = attributes ↔ IsToldBy root attributes := by
  rw [ofElement, IsToldBy, Element.textOr_eq_says?, Option.or_none]
  constructor
  · rintro rfl
    rfl
  · intro told
    rw [told]

end AccountAttributes

namespace QueueAttributes

variable {root : Element} {attributes : QueueAttributes}

theorem readBool_eq_ok_iff {text : String} {value : Bool} :
    readBool text = .ok value ↔ SpellsTruth text value := by
  have yes : Ascii.lower "true" = "true" := by decide
  have no : Ascii.lower "false" = "false" := by decide
  simp only [readBool, SpellsTruth, Ascii.sameIgnoringCase_iff, yes, no]
  split
  · rename_i same
    cases value <;> simp [same]
  · split
    · rename_i same
      cases value <;> simp [same]
    · rename_i neither nor
      cases value <;> simp [neither, nor]

theorem kind_of_readBool {text : String} {error : CallError}
    (fails : readBool text = .error error) :
    error.kind = .responseUnparsable := by
  unfold readBool at fails
  split at fails
  · cases fails
  · split at fails <;> cases fails
    rfl

/-- What an element has to say for the attributes of a queue to be read from it: the name, and of
the rest what it has and nothing else. -/
structure IsToldBy (root : Element) (attributes : QueueAttributes) : Prop where
  queueName : root.says? "QueueName" = some attributes.queueName
  delaySeconds : root.Shows SpellsCount "DelaySeconds" attributes.delaySeconds
  maximumMessageSize : root.Shows SpellsCount "MaximumMessageSize" attributes.maximumMessageSize
  messageRetentionPeriod :
    root.Shows SpellsCount "MessageRetentionPeriod" attributes.messageRetentionPeriod
  visibilityTimeout : root.Shows SpellsCount "VisibilityTimeout" attributes.visibilityTimeout
  pollingWaitSeconds : root.Shows SpellsCount "PollingWaitSeconds" attributes.pollingWaitSeconds
  loggingEnabled : root.Shows SpellsTruth "LoggingEnabled" attributes.loggingEnabled
  activeMessages : root.Shows SpellsCount "ActiveMessages" attributes.activeMessages
  inactiveMessages : root.Shows SpellsCount "InactiveMessages" attributes.inactiveMessages
  delayMessages : root.Shows SpellsCount "DelayMessages" attributes.delayMessages
  createTime : root.Shows SpellsTime "CreateTime" attributes.createTime
  lastModifyTime : root.Shows SpellsTime "LastModifyTime" attributes.lastModifyTime

theorem ofElement_eq_ok_iff_isToldBy :
    ofElement root = .ok attributes ↔ IsToldBy root attributes := by
  simp only [ofElement, bind_eq_ok, asked_eq_ok_iff, Element.require_eq_ok_iff,
    Element.valueOr_eq_ok_iff, Element.textOr_eq_says?, Option.or_none, option_mapM_eq_ok_iff,
    readBool_eq_ok_iff, Element.readInt64_eq_ok_iff, Element.readUInt64_eq_ok_iff]
  constructor
  · rintro ⟨_, named, _, delay, _, size, _, period, _, timeout, _, wait, _, logging, _, active, _,
      inactive, _, delayed, _, created, _, modified, made⟩
    cases made
    exact ⟨named, delay, size, period, timeout, wait, logging, active, inactive, delayed, created,
      modified⟩
  · rintro ⟨named, delay, size, period, timeout, wait, logging, active, inactive, delayed, created,
      modified⟩
    exact ⟨_, named, _, delay, _, size, _, period, _, timeout, _, wait, _, logging, _, active, _,
      inactive, _, delayed, _, created, _, modified, rfl⟩

theorem failsToRead_ofElement (root : Element) : FailsToRead (ofElement root) := by
  have logging : FailsToRead ((root.textOr "LoggingEnabled" none).mapM readBool) := by
    intro error failed
    obtain ⟨text, -, fails⟩ := option_mapM_eq_error failed
    exact kind_of_readBool fails
  refine .bind (.asked _) fun _ => .bind (.asked _) fun _ => .bind (.asked _) fun _ =>
    .bind (.asked _) fun _ => .bind (.asked _) fun _ => .bind (.asked _) fun _ =>
    .bind logging fun _ => ?_
  refine .bind (.asked _) fun _ => .bind (.asked _) fun _ => .bind (.asked _) fun _ =>
    .bind (.asked _) fun _ => .bind (.asked _) fun _ => ?_
  exact fun error failed => nomatch failed

end QueueAttributes

namespace MessageReceipt

/-- What an element has to say for a receipt to be read from it. -/
structure IsToldBy (root : Element) (receipt : MessageReceipt) : Prop where
  messageId : root.says? "MessageId" = some receipt.messageId
  bodyDigest : root.says? "MessageBodyMD5" = receipt.bodyDigest
  receiptHandle : root.says? "ReceiptHandle" = receipt.receiptHandle

theorem ofElement_eq_ok_iff_isToldBy {root : Element} {receipt : MessageReceipt} :
    ofElement root = .ok receipt ↔ IsToldBy root receipt := by
  simp only [ofElement, bind_eq_ok, asked_eq_ok_iff, Element.require_eq_ok_iff,
    Element.textOr_eq_says?, Option.or_none]
  constructor
  · rintro ⟨_, identified, made⟩
    cases made
    exact ⟨identified, rfl, rfl⟩
  · rintro ⟨identified, digest, handle⟩
    refine ⟨_, identified, ?_⟩
    rw [digest, handle]
    rfl

theorem failsToRead_ofElement (root : Element) : FailsToRead (ofElement root) :=
  .bind (.asked _) fun _ _ failed => nomatch failed

end MessageReceipt

namespace ReceivedMessage

variable {encoding : BodyEncoding} {root : Element} {messages : List ReceivedMessage}

/-- What an element has to say for messages to be read from it: a batch has each message in a child
of its own, and any other element is one message. -/
inductive AreToldBy (encoding : BodyEncoding) (root : Element) : List ReceivedMessage → Prop
  | batch {messages : List ReceivedMessage} (named : root.name = "Messages")
      (each : List.Forall₂ (IsToldBy encoding) (root.childrenNamed "Message") messages) :
      AreToldBy encoding root messages
  | single {message : ReceivedMessage} (named : root.name ≠ "Messages")
      (told : IsToldBy encoding root message) : AreToldBy encoding root [message]

theorem listOfElement_eq_ok_iff :
    listOfElement encoding root = .ok messages ↔ AreToldBy encoding root messages := by
  unfold listOfElement
  split
  · rename_i named
    simp only [mapM_eq_ok_iff, ofElement_eq_ok_iff_isToldBy]
    refine ⟨.batch named, fun told => ?_⟩
    cases told with
    | batch _ each => exact each
    | single other _ => exact absurd named other
  · rename_i other
    simp only [map_eq_ok, ofElement_eq_ok_iff_isToldBy]
    constructor
    · rintro ⟨message, told, rfl⟩
      exact .single other told
    · intro told
      cases told with
      | batch named _ => exact absurd named other
      | single _ told => exact ⟨_, told, rfl⟩

theorem failsToRead_listOfElement (encoding : BodyEncoding) (root : Element) :
    FailsToRead (listOfElement encoding root) := by
  intro error failed
  unfold listOfElement at failed
  split at failed
  · obtain ⟨element, -, failed⟩ := mapM_eq_error failed
    exact failsToRead_ofElement encoding element error failed
  · exact failsToRead_ofElement encoding root error (map_eq_error.mp failed)

end ReceivedMessage

end Queue

/-! ### Readings -/

/-- A reading that gives exactly the values that are told. Where it gives none it does not break
down, but the response cannot be read. -/
structure Attempt.Reads {α : Type} (reading : Attempt α) (told : α → Prop) : Prop where
  reads : ∀ {value}, reading = .ok value ↔ told value
  fails : ∀ {interruption}, reading = .error interruption →
    ∃ error, interruption = .failed error ∧ error.kind = .responseUnparsable

namespace Attempt.Reads

variable {α β : Type} {reading : Attempt α} {told : α → Prop}

theorem ofResult {result : Except CallError α} (reads : ∀ {value}, result = .ok value ↔ told value)
    (fails : Queue.FailsToRead result) : (Attempt.ofResult result).Reads told where
  reads := mapError_eq_ok.trans reads
  fails failed := by
    obtain ⟨error, failing, rfl⟩ := mapError_eq_error.mp failed
    exact ⟨error, rfl, fails error failing⟩

theorem map (exactly : reading.Reads told) {wrap : α → β} {wrapped : β → Prop}
    (wraps : ∀ {result}, wrapped result ↔ ∃ value, told value ∧ wrap value = result) :
    Attempt.Reads (reading.map wrap) wrapped where
  reads := by
    intro result
    rw [map_eq_ok, wraps]
    simp only [exactly.reads]
  fails failed := exactly.fails (map_eq_error.mp failed)

/-- Where nothing is told, the response cannot be read. -/
theorem unparsable (exactly : reading.Reads told) (untold : ∀ value, ¬ told value) :
    ∃ error, reading = .error (.failed error) ∧ error.kind = .responseUnparsable := by
  cases outcome : reading with
  | ok value => exact absurd (exactly.reads.mp outcome) (untold value)
  | error interruption =>
    obtain ⟨error, rfl, kind⟩ := exactly.fails outcome
    exact ⟨error, rfl, kind⟩

end Attempt.Reads

namespace Queue

/-! ### One operation -/

section Operations

variable {response : Response}

/-- An operation that asks for nothing has the same value in every response. -/
theorem reads_ignored {ρ γ α : Type} {operation : Operation ρ γ α} {noted : γ} {value : α}
    (ignores : operation.reply = .ignore value) :
    (operation.readSuccess noted response).Reads (· = value) := by
  rw [Operation.readSuccess, ignores]
  exact ⟨by simp [eq_comm], nofun⟩

/-- An operation that reads documents does so exactly if it reads elements exactly. -/
theorem reads_document {ρ γ α : Type} {operation : Operation ρ γ α} {noted : γ}
    {read : γ → Element → Except CallError α} {told : Element → α → Prop}
    (asks : operation.reply = .read (readDocument read))
    (reads : ∀ {root value}, read noted root = .ok value ↔ told root value)
    (fails : ∀ root, FailsToRead (read noted root)) :
    (operation.readSuccess noted response).Reads fun value =>
      ∃ root, Element.parse response.body = .ok root ∧ told root value := by
  rw [Operation.readSuccess, asks]
  refine .ofResult ?_ (.bind (fun error failed => ?_) fails)
  · intro value
    rw [bind_eq_ok]
    simp only [Response.document, mapError_eq_ok, reads]
  · obtain ⟨fault, -, rfl⟩ := mapError_eq_error.mp failed
    exact fault.kind_toCallError

theorem reads_getAccountAttributes :
    (getAccountAttributes.readSuccess () response).Reads fun attributes =>
      ∃ root, Element.parse response.body = .ok root ∧ attributes.IsToldBy root :=
  reads_document rfl (by simp [AccountAttributes.ofElement_eq_iff_isToldBy])
    fun _ _ failed => nomatch failed

theorem reads_createQueue :
    (createQueue.readSuccess () response).Reads fun address =>
      response.header? "Location" = some address := by
  show (Attempt.ofResult (readLocation response)).Reads _
  unfold readLocation
  cases response.header? "Location" with
  | none =>
    refine .ofResult (by simp) fun error failed => ?_
    cases failed
    rfl
  | some location => exact .ofResult (by simp) fun error failed => nomatch failed

theorem reads_getQueueAttributes :
    (getQueueAttributes.readSuccess () response).Reads fun attributes =>
      ∃ root, Element.parse response.body = .ok root ∧ attributes.IsToldBy root :=
  reads_document rfl QueueAttributes.ofElement_eq_ok_iff_isToldBy
    QueueAttributes.failsToRead_ofElement

theorem reads_sendMessage :
    (sendMessage.readSuccess () response).Reads fun receipt =>
      ∃ root, Element.parse response.body = .ok root ∧ receipt.IsToldBy root :=
  reads_document rfl MessageReceipt.ofElement_eq_ok_iff_isToldBy
    MessageReceipt.failsToRead_ofElement

theorem reads_receiveMessages {encoding : BodyEncoding} :
    (receiveMessages.readSuccess encoding response).Reads fun messages =>
      ∃ root, Element.parse response.body = .ok root ∧
        ReceivedMessage.AreToldBy encoding root messages :=
  reads_document rfl ReceivedMessage.listOfElement_eq_ok_iff
    (ReceivedMessage.failsToRead_listOfElement encoding)

end Operations

/-! ### Any request -/

namespace QueueRequest

variable {request : QueueRequest} {response : Response}

/-- The value that the operation of a request reads in a response. -/
def reading (request : QueueRequest) (response : Response) : Attempt QueueValue :=
  request.visit fun operation _ noted wrap => (operation.readReply noted response).map wrap

/-- What a successful response has to say for the value of a request to be read from it. Three
operations ask for nothing. -/
inductive IsTold (response : Response) : QueueRequest → QueueValue → Prop
  | accountAttributes {root : Element} {attributes : AccountAttributes}
      (parsed : Element.parse response.body = .ok root)
      (told : attributes.IsToldBy root) :
      IsTold response .getAccountAttributes (.accountAttributes attributes)
  | accountSet {attributes : AccountAttributes} :
      IsTold response (.setAccountAttributes attributes) .done
  | created {attributes : QueueAttributes} {address : String}
      (located : response.header? "Location" = some address) :
      IsTold response (.createQueue attributes) (.queueUrl address)
  | queueSet {attributes : QueueAttributes} :
      IsTold response (.setQueueAttributes attributes) .done
  | queueAttributes {queueName : String} {root : Element} {attributes : QueueAttributes}
      (parsed : Element.parse response.body = .ok root) (told : attributes.IsToldBy root) :
      IsTold response (.getQueueAttributes queueName) (.queueAttributes attributes)
  | sent {message : SendRequest} {root : Element} {receipt : MessageReceipt}
      (parsed : Element.parse response.body = .ok root) (told : receipt.IsToldBy root) :
      IsTold response (.sendMessage message) (.receipt receipt)
  | received {receiver : ReceiveRequest} {root : Element} {messages : List ReceivedMessage}
      (parsed : Element.parse response.body = .ok root)
      (told : ReceivedMessage.AreToldBy receiver.encoding root messages) :
      IsTold response (.receiveMessages receiver) (.messages messages)
  | deleted {handles : DeleteRequest} : IsTold response (.deleteMessages handles) .done

/-- A successful response is read as exactly what it tells. -/
theorem reads_reading (success : response.status.isSuccess = true) (request : QueueRequest) :
    (request.reading response).Reads (request.IsTold response) := by
  have replies {ρ γ α : Type} (operation : Operation ρ γ α) (noted : γ) :
      operation.readReply noted response = operation.readSuccess noted response := by
    rw [Operation.readReply, if_pos success]
  unfold reading
  cases request with
  | getAccountAttributes =>
    rw [visit, replies]
    refine reads_getAccountAttributes.map ⟨fun told => ?_, ?_⟩
    · cases told with
      | accountAttributes parsed told => exact ⟨_, ⟨_, parsed, told⟩, rfl⟩
    · rintro ⟨_, ⟨_, parsed, told⟩, rfl⟩
      exact .accountAttributes parsed told
  | setAccountAttributes attributes =>
    rw [visit, replies]
    refine (reads_ignored rfl).map ⟨fun told => ?_, fun ⟨_, _, wraps⟩ => wraps ▸ .accountSet⟩
    cases told
    exact ⟨(), rfl, rfl⟩
  | createQueue attributes =>
    rw [visit, replies]
    refine reads_createQueue.map ⟨fun told => ?_, ?_⟩
    · cases told with
      | created located => exact ⟨_, located, rfl⟩
    · rintro ⟨_, located, rfl⟩
      exact .created located
  | setQueueAttributes attributes =>
    rw [visit, replies]
    refine (reads_ignored rfl).map ⟨fun told => ?_, fun ⟨_, _, wraps⟩ => wraps ▸ .queueSet⟩
    cases told
    exact ⟨(), rfl, rfl⟩
  | getQueueAttributes queueName =>
    rw [visit, replies]
    refine reads_getQueueAttributes.map ⟨fun told => ?_, ?_⟩
    · cases told with
      | queueAttributes parsed told => exact ⟨_, ⟨_, parsed, told⟩, rfl⟩
    · rintro ⟨_, ⟨_, parsed, told⟩, rfl⟩
      exact .queueAttributes parsed told
  | sendMessage message =>
    rw [visit, replies]
    refine reads_sendMessage.map ⟨fun told => ?_, ?_⟩
    · cases told with
      | sent parsed told => exact ⟨_, ⟨_, parsed, told⟩, rfl⟩
    · rintro ⟨_, ⟨_, parsed, told⟩, rfl⟩
      exact .sent parsed told
  | receiveMessages receiver =>
    rw [visit, replies]
    refine reads_receiveMessages.map ⟨fun told => ?_, ?_⟩
    · cases told with
      | received parsed told => exact ⟨_, ⟨_, parsed, told⟩, rfl⟩
    · rintro ⟨_, ⟨_, parsed, told⟩, rfl⟩
      exact .received parsed told
  | deleteMessages handles =>
    rw [visit, replies]
    refine (reads_ignored rfl).map ⟨fun told => ?_, fun ⟨_, _, wraps⟩ => wraps ▸ .deleted⟩
    cases told
    exact ⟨(), rfl, rfl⟩

/-- What every call of a request through a queue client comes to, once its request has been handed
over and answered. -/
def Resolves (queues : QueueClient) (request : QueueRequest) (response : Response)
    (result : Outcome QueueValue) : Prop :=
  request.visit fun operation own _ wrap =>
    ∃ outcome, (queues.action operation).Resolves own response outcome ∧ outcome.map wrap = result

/-- A call comes to the value that is read, or to the error, which may get the id of the call. -/
theorem exists_resolves (queues : QueueClient) (request : QueueRequest) (response : Response) :
    ∃ result, request.Resolves queues response result ∧
      (∀ value, result = .ok value ↔ request.reading response = .ok value) ∧
      ∀ error, request.reading response = .error (.failed error) →
        ∃ reported, result = .error reported ∧ reported.kind = error.kind := by
  have each {ρ γ α : Type} {operation : Operation ρ γ α} {own : ρ} {noted : γ}
      (wrap : α → QueueValue) (notes : operation.Notes own noted) :
      ∃ result,
        (∃ outcome, (queues.action operation).Resolves own response outcome ∧
          outcome.map wrap = result) ∧
        (∀ value, result = .ok value ↔ (operation.readReply noted response).map wrap = .ok value) ∧
        ∀ error, (operation.readReply noted response).map wrap = .error (.failed error) →
          ∃ reported, result = .error reported ∧ reported.kind = error.kind := by
    have resolves := (queues.action operation).resolves_readReply notes response
    refine ⟨_, ⟨_, resolves, rfl⟩, ?_, ?_⟩
    · intro value
      rw [map_eq_ok, map_eq_ok]
      simp only [mapError_eq_ok]
      rfl
    · intro error fails
      refine ⟨_, map_eq_error.mpr (mapError_eq_error.mpr ⟨_, map_eq_error.mp fails, rfl⟩), ?_⟩
      unfold Action.failure
      simp only
      split <;> rfl
  have notes := request.visit_notes
  cases request <;> exact each _ notes

/-- **A success is the value that its response tells, or a local error of a response that cannot be
read.** A value is read from a successful response exactly if the response has all that the
operation needs, and whatever else it has for the value is well formed. Otherwise the reading does
not break down, and every call that gets this response comes to an error of this side. -/
theorem success_is_told_or_unparsable (queues : QueueClient) (request : QueueRequest)
    (response : Response) (success : response.status.isSuccess = true) :
    (∀ value, request.reading response = .ok value ↔ request.IsTold response value) ∧
    (∀ interruption, request.reading response = .error interruption →
      ∃ error, interruption = .failed error ∧ error.kind = .responseUnparsable ∧
        error.isLocal = true) ∧
    ∃ result, request.Resolves queues response result ∧
      (∀ value, result = .ok value ↔ request.IsTold response value) ∧
      ∀ error, result = .error error →
        error.kind = .responseUnparsable ∧ error.isLocal = true := by
  have exactly := reads_reading success request
  have onThisSide {error : CallError} (kind : error.kind = .responseUnparsable) :
      error.isLocal = true := by
    rw [CallError.isLocal, CallError.category, kind]
    rfl
  refine ⟨fun _ => exactly.reads, fun interruption fails => ?_, ?_⟩
  · obtain ⟨error, same, kind⟩ := exactly.fails fails
    exact ⟨error, same, kind, onThisSide kind⟩
  · obtain ⟨result, resolves, values, errors⟩ := exists_resolves queues request response
    refine ⟨result, resolves, fun value => (values value).trans exactly.reads, ?_⟩
    rintro reported rfl
    cases outcome : request.reading response with
    | ok value => cases (values value).mpr outcome
    | error interruption =>
      obtain ⟨error, rfl, kind⟩ := exactly.fails outcome
      obtain ⟨_, same, kept⟩ := errors error outcome
      cases same
      exact ⟨kept.trans kind, onThisSide (kept.trans kind)⟩

/-- A successful response that shows a queue, of which it says more than the name. -/
def describing (more : String) : Response where
  status := ⟨204⟩
  headers := []
  body := Utf8.encode ("<Queue><QueueName>q</QueueName>" ++ more ++ "</Queue>")

/-- A count with a sign and a zero in front and a truth value in mixed case are read, at whatever
depth they stand. A count with a minus sign is not taken for an absent one. -/
theorem success_is_told_or_unparsable_sign :
    let request := getQueueAttributes "q"
    request.reading
        (describing
          "<P><DelaySeconds>+07</DelaySeconds></P><LoggingEnabled>tRUE</LoggingEnabled>") =
      .ok (.queueAttributes
        { queueName := "q", delaySeconds := some 7, loggingEnabled := some true }) ∧
    ∃ error,
      request.reading (describing "<DelaySeconds>-1</DelaySeconds>") = .error (.failed error) ∧
        error.kind = .responseUnparsable ∧ error.isLocal = true := by
  intro request
  have reads (more : String) := success_is_told_or_unparsable ⟨Action.openClient, fun _ => "own"⟩
    request (describing more) rfl
  constructor
  · have parsed : Element.parse (describing
        "<P><DelaySeconds>+07</DelaySeconds></P><LoggingEnabled>tRUE</LoggingEnabled>").body =
      .ok (.mk "Queue" "" [.mk "QueueName" "q" [], .mk "P" "" [.mk "DelaySeconds" "+07" []],
        .mk "LoggingEnabled" "tRUE" []]) := by cbv
    refine ((reads _).1 _).mpr (.queueAttributes parsed ?_)
    rw [← QueueAttributes.ofElement_eq_ok_iff_isToldBy]
    decide +kernel
  · cases outcome : request.reading (describing "<DelaySeconds>-1</DelaySeconds>") with
    | ok value =>
      have parsed : Element.parse (describing "<DelaySeconds>-1</DelaySeconds>").body =
        .ok (.mk "Queue" "" [.mk "QueueName" "q" [], .mk "DelaySeconds" "-1" []]) := by cbv
      have told : IsTold _ (getQueueAttributes "q") value := ((reads _).1 value).mp outcome
      cases told with
      | queueAttributes shown told =>
        obtain rfl := Except.ok.inj (parsed.symm.trans shown)
        obtain ⟨count, spells⟩ := exists_of_rel told.delaySeconds (show _ = some "-1" by decide)
        exact (Numeral.spells_minus_iff.mp spells).1.elim
    | error interruption =>
      obtain ⟨error, same, kind, here⟩ := (reads _).2.1 _ outcome
      exact ⟨error, congrArg _ same, kind, here⟩

end QueueRequest

end Queue

end SignedQueue

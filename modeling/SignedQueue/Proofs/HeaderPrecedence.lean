import Mathlib
import SignedQueue.Proofs.Departure
/-!
**Whose header goes out.** Four parties may give a message a header of one name, each in a spelling
of its own: the caller, the action, the operation, and whoever sets the defaults. The first of them
that gives one is heard, and all that none of the others names stays as the operation built it.

* `Action.custom?`: what the caller gives under a name;
* `Action.Precedes`: a message with the headers of these four in their order;
* `Action.precedes_message`: the message that is handed to the signer is such a one.
-/

namespace SignedQueue

namespace Action

variable {ρ γ α : Type} {action : Action ρ γ α} {now : Moment} {custom : List (String × String)}
  {request : ρ} {noted : γ} {built message : RequestMessage}

/-! ### What the caller gives -/

/-- What the caller's own headers give under a name in any case. -/
def custom? (custom : List (String × String)) (name : String) : Option String :=
  (custom.find? fun entry => Ascii.sameIgnoringCase entry.1 name).map Prod.snd

theorem custom?_eq_none {name : String} :
    custom? custom name = none ↔ ∀ entry ∈ custom, Ascii.lower entry.1 ≠ Ascii.lower name := by
  simp [custom?, Ascii.sameIgnoringCase]

/-- Of headers with different names it makes no difference which is set last. -/
theorem custom?_reverse (distinct : (custom.map fun entry => Ascii.lower entry.1).Nodup)
    (name : String) : custom? custom.reverse name = custom? custom name := by
  apply find?_map_perm custom.reverse_perm
  intro first firstMember second secondMember firstSame secondSame
  rw [List.mem_reverse] at firstMember secondMember
  rw [Ascii.sameIgnoringCase_iff] at firstSame secondSame
  have same : first = second :=
    List.inj_on_of_nodup_map distinct firstMember secondMember (firstSame.trans secondSame.symm)
  rw [same]

/-! ### The order -/

/-- A message of which each header is the caller's own, else the action's, else the operation's,
else a default. In all else it is as the operation built it, but for the action's method and
address. -/
structure Precedes (action : Action ρ γ α) (now : Moment) (custom : List (String × String))
    (built message : RequestMessage) : Prop where
  header :
    ∀ name, message.header? name =
      (custom? custom name).or
        ((action.needed? name).or ((built.header? name).or (default? now name)))
  /-- A header that neither the caller nor the action gives, and for which there is no default or no
  need of one, stays in its spelling. -/
  others :
    ∀ entry, custom? custom entry.1 = none → action.needed? entry.1 = none →
      default? now entry.1 = none ∨ (built.header? entry.1).isSome →
        (entry ∈ message.headers.entries ↔ entry ∈ built.headers.entries)
  method : message.method = action.operation.method
  endpoint : message.endpoint = action.endpoint
  path : relativePath action.endpoint built.resourcePath = .ok message.resourcePath
  body : message.body = built.body

/-- What no one names stays in the message as it was written. -/
theorem others_message (builds : action.operation.build request = .ok (built, noted))
    (made : action.message now custom request = .ok message) (entry : String × String)
    (notCustom : custom? custom entry.1 = none) (notNeeded : action.needed? entry.1 = none)
    (kept : default? now entry.1 = none ∨ (built.header? entry.1).isSome) :
    entry ∈ message.headers.entries ↔ entry ∈ built.headers.entries := by
  obtain ⟨_, _, rfl⟩ := (message_eq_ok_of_build builds).mp made
  have differ := fun other member => (custom?_eq_none.mp notCustom other member).symm
  exact (HeaderFields.mem_setAll_of_ne differ _).trans (mem_addHeaders notNeeded kept)

/-- The message of a request has the headers of the four parties in their order, if the caller's
have different names. -/
theorem precedes_of_message (builds : action.operation.build request = .ok (built, noted))
    (distinct : (custom.map fun entry => Ascii.lower entry.1).Nodup)
    (made : action.message now custom request = .ok message) :
    action.Precedes now custom built message := by
  have others := others_message builds made
  have header : ∀ name, message.header? name =
      (custom? custom name).or
        ((action.needed? name).or ((built.header? name).or (default? now name))) := by
    intro name
    rw [← custom?_reverse distinct]
    exact get?_message builds made name
  obtain ⟨_, relative, rfl⟩ := (message_eq_ok_of_build builds).mp made
  exact ⟨header, others, rfl, rfl, relative, rfl⟩

/-- A message that an operation has built is handed to the signer exactly if its path belongs to the
endpoint. It then has the headers of the caller, of the action, of the operation and the defaults in
this order, whatever case each of them writes its names in, and nothing else of it is changed. -/
theorem precedes_message (builds : action.operation.build request = .ok (built, noted))
    (distinct : (custom.map fun entry => Ascii.lower entry.1).Nodup) :
    ((∃ message, action.message now custom request = .ok message) ↔
        ∃ path, relativePath action.endpoint built.resourcePath = .ok path) ∧
      ∀ message, action.message now custom request = .ok message →
        action.Precedes now custom built message ∧
          ∀ signer insideRuntime flight, action.client.signer = some signer →
            action.takeOff now insideRuntime custom request = .ok flight →
              flight.stage = .signing (signer.call message) := by
  refine ⟨?_, fun message made => ⟨precedes_of_message builds distinct made, ?_⟩⟩
  · constructor
    · rintro ⟨message, made⟩
      exact ⟨_, (precedes_of_message builds distinct made).path⟩
    · rintro ⟨path, relative⟩
      exact ⟨_, (message_eq_ok_of_build builds).mpr ⟨path, relative, rfl⟩⟩
  · intro signer insideRuntime flight has takesOff
    obtain ⟨handed, _, prepares, _, rfl⟩ := takeOff_eq_ok.mp takesOff
    obtain rfl : handed = message := Except.ok.inj ((message_of_prepare prepares).symm.trans made)
    show action.firstStage handed = _
    rw [firstStage, has]

/-- A message whose operation has written names in a case of its own. -/
def announced : RequestMessage where
  method := .get
  resourcePath := "/queues/news"
  headers :=
    .ofList
      [("dATE", "Thu, 01 Jan 2015 00:00:00 GMT"), ("X-MNS-VERSION", "1"), ("Content-MD5", "sum"),
        ("x-trace", "operation")]

/-- An action whose operation gives some of the headers that every request needs. -/
def announcing : Action Unit Unit Unit where
  operation :=
    { name := "Announce"
      method := .put
      build := fun _ => .ok (announced, ())
      reply := .ignore ()
      refusal := fun _ => .brokeDown none }
  client :=
    { context := { transport := true, runtime := true }
      config := { endpoint := "http://host" }
      signer := some ⟨.fixed ⟨"AK", "SK", none, none⟩, .headerSignature⟩ }
  requestId := some "id"

/-- Headers of a caller, two of which are also given by others under names in another case. -/
def callersOwn : List (String × String) :=
  [("CONTENT-TYPE", "text/plain"), ("X-Trace", "caller")]

theorem precedes_message_mixedCase :
    announcing.operation.build () = .ok (announced, ()) ∧
      (callersOwn.map fun entry => Ascii.lower entry.1).Nodup ∧
        ∃ message, announcing.message 0 callersOwn () = .ok message ∧
          announcing.Precedes 0 callersOwn announced message ∧
            message.header? "Content-Type" = some "text/plain" ∧
              message.header? "x-trace" = some "caller" ∧
                message.header? "x-mns-version" = some "2015-06-06" ∧
                  message.header? "X-Mns-User-Request-Id" = some "id" ∧
                    message.header? "date" = some "Thu, 01 Jan 2015 00:00:00 GMT" ∧
                      ("Content-MD5", "sum") ∈ message.headers.entries := by
  have builds : announcing.operation.build () = .ok (announced, ()) := rfl
  have distinct : (callersOwn.map fun entry => Ascii.lower entry.1).Nodup := by decide +kernel
  obtain ⟨reached, all⟩ := @precedes_message _ _ _ _ 0 _ _ _ _ builds distinct
  obtain ⟨message, made⟩ := reached.mpr ⟨"/queues/news", by decide +kernel⟩
  obtain ⟨precedes, _⟩ := all message made
  have kept : ("Content-MD5", "sum") ∈ message.headers.entries := by
    apply (precedes.others _ (by decide +kernel) (by decide +kernel) (.inl (by decide +kernel))).mpr
    decide +kernel
  refine ⟨builds, distinct, message, made, precedes, ?_⟩
  simp only [precedes.header]
  refine ⟨?_, ?_, ?_, ?_, ?_, kept⟩
  all_goals decide +kernel

end Action

end SignedQueue

import Mathlib
import SignedQueue.Call.Flight
import SignedQueue.Proofs.HeaderFields
/-!
**How a call sets out.** The message of a request is the operation's, with the action's method, at
the client's endpoint, and with further headers. A request stays on the ground if the operation
refuses it, if its path belongs to another endpoint, or if nothing drives calls.

* `Operation.Notes`: what is noted of a request;
* `Action.prepare_eq_ok`, `Action.takeOff_eq_ok`: what a call sets out with;
* `Action.message`, `Action.message_eq_ok_of_build`: what becomes of a message that the operation
  has built;
* `Action.Refuses`, `Action.Grounds`: why a request has no message, and why it stays on the ground;
* `Action.buildMessage_eq_error`, `Action.takeOff_eq_error`: these are the only reasons;
* `Action.needed?`, `Action.default?`: the headers that every request needs;
* `Action.get?_message`, `Action.mem_addHeaders`: who sets a header of the message, and what stays.
-/

namespace SignedQueue

/-- What an operation notes of a request, if it builds a message for it. -/
def Operation.Notes {ρ γ α : Type} (operation : Operation ρ γ α) (request : ρ) (noted : γ) : Prop :=
  ∀ message given, operation.build request = .ok (message, given) → given = noted

namespace Action

variable {ρ γ α : Type} {action : Action ρ γ α} {now : Moment} {insideRuntime : Bool}
  {custom : List (String × String)} {request : ρ} {noted : γ}

/-! ### The path -/

theorem relativePath_eq_error {endpoint path : String} {error : CallError} :
    relativePath endpoint path = .error error ↔
      isAbsolute path = true ∧ relativeTo endpoint path = none ∧
        error = foreignPath path endpoint := by
  unfold relativePath
  cases isAbsolute path with
  | false => simp
  | true => cases relativeTo endpoint path <;> simp [eq_comm]

/-- An address of its own is made relative exactly if it is an address at the endpoint. -/
theorem relativePath_eq_ok {endpoint path relative : String} (absolute : isAbsolute path = true) :
    relativePath endpoint path = .ok relative ↔ relativeTo endpoint path = some relative := by
  rw [relativePath, if_pos absolute]
  cases relativeTo endpoint path <;> simp

/-! ### The message -/

/-- Why a request has no message: the operation refuses it, or its path is the address of something
that is not at the endpoint. -/
inductive Refuses (action : Action ρ γ α) (request : ρ) : CallError → Prop
  | operation {reason : CallError} (failed : action.operation.build request = .error reason) :
    Refuses action request reason
  | path {message : RequestMessage} {noted : γ}
    (built : action.operation.build request = .ok (message, noted))
    (absolute : isAbsolute message.resourcePath = true)
    (foreign : relativeTo action.endpoint message.resourcePath = none) :
    Refuses action request (foreignPath message.resourcePath action.endpoint)

theorem buildMessage_eq_ok {built : RequestMessage} :
    action.buildMessage request = .ok (built, noted) ↔
      ∃ message path, action.operation.build request = .ok (message, noted) ∧
        relativePath action.endpoint message.resourcePath = .ok path ∧
          built =
            { message with
              method := action.operation.method
              endpoint := action.endpoint
              resourcePath := path } := by
  unfold buildMessage
  simp only [bind_eq_ok, mapError_eq_ok]
  constructor
  · rintro ⟨⟨message, _⟩, made, path, relative, same⟩
    cases same
    exact ⟨message, path, made, relative, rfl⟩
  · rintro ⟨message, path, made, relative, rfl⟩
    exact ⟨(message, noted), made, path, relative, rfl⟩

theorem buildMessage_eq_error {error : CallError} :
    action.buildMessage request = .error error ↔
      ∃ reason, action.Refuses request reason ∧ error = action.withId reason := by
  unfold buildMessage
  simp only [bind_eq_error, mapError_eq_error, mapError_eq_ok]
  constructor
  · rintro (⟨reason, failed, rfl⟩ | ⟨⟨message, _⟩, built, ⟨reason, failed, rfl⟩ | ⟨_, _, made⟩⟩)
    · exact ⟨reason, .operation failed, rfl⟩
    · obtain ⟨absolute, foreign, rfl⟩ := relativePath_eq_error.mp failed
      exact ⟨_, .path built absolute foreign, rfl⟩
    · cases made
  · rintro ⟨reason, refused, rfl⟩
    cases refused with
    | operation failed => exact .inl ⟨reason, failed, rfl⟩
    | path built absolute foreign =>
      exact .inr ⟨_, built, .inl ⟨_, relativePath_eq_error.mpr ⟨absolute, foreign, rfl⟩, rfl⟩⟩

theorem prepare_eq_ok {message : RequestMessage} :
    action.prepare now custom request = .ok (message, noted) ↔
      ∃ built, action.buildMessage request = .ok (built, noted) ∧
        message =
          { built with headers := (action.addHeaders now built.headers).setAll custom } := by
  unfold prepare
  rw [bind_eq_ok]
  constructor
  · rintro ⟨⟨built, _⟩, builds, same⟩
    cases same
    exact ⟨built, builds, rfl⟩
  · rintro ⟨built, builds, rfl⟩
    exact ⟨(built, noted), builds, rfl⟩

theorem prepare_eq_error {error : CallError} :
    action.prepare now custom request = .error error ↔
      ∃ reason, action.Refuses request reason ∧ error = action.withId reason := by
  unfold prepare
  rw [bind_eq_error, ← buildMessage_eq_error]
  refine or_iff_left ?_
  rintro ⟨_, _, made⟩
  cases made

/-- What goes with a message was noted when the operation built it. -/
theorem exists_build {message : RequestMessage}
    (prepares : action.prepare now custom request = .ok (message, noted)) :
    ∃ raw, action.operation.build request = .ok (raw, noted) := by
  obtain ⟨_, builds, _⟩ := prepare_eq_ok.mp prepares
  obtain ⟨raw, _, makes, _⟩ := buildMessage_eq_ok.mp builds
  exact ⟨raw, makes⟩

theorem noted_of_prepare {message : RequestMessage} {given : γ}
    (notes : action.operation.Notes request noted)
    (prepares : action.prepare now custom request = .ok (message, given)) : given = noted :=
  let ⟨raw, builds⟩ := exists_build prepares
  notes raw given builds

/-- The message that is signed for a request. -/
def message (action : Action ρ γ α) (now : Moment) (custom : List (String × String)) (request : ρ) :
    Except CallError RequestMessage :=
  (action.prepare now custom request).map Prod.fst

theorem message_of_prepare {message : RequestMessage}
    (prepares : action.prepare now custom request = .ok (message, noted)) :
    action.message now custom request = .ok message :=
  map_eq_ok.mpr ⟨_, prepares, rfl⟩

theorem message_eq_ok_of_buildMessage {built message : RequestMessage}
    (builds : action.buildMessage request = .ok (built, noted)) :
    action.message now custom request = .ok message ↔
      message = { built with headers := (action.addHeaders now built.headers).setAll custom } := by
  constructor
  · intro makes
    obtain ⟨⟨_, _⟩, prepares, rfl⟩ := map_eq_ok.mp makes
    obtain ⟨_, made, rfl⟩ := prepare_eq_ok.mp prepares
    cases made.symm.trans builds
    rfl
  · rintro rfl
    exact message_of_prepare (prepare_eq_ok.mpr ⟨built, builds, rfl⟩)

/-- What becomes of a message that the operation has built: it is made relative to the endpoint and
gets the action's method and further headers. -/
theorem message_eq_ok_of_build {built message : RequestMessage}
    (builds : action.operation.build request = .ok (built, noted)) :
    action.message now custom request = .ok message ↔
      ∃ path, relativePath action.endpoint built.resourcePath = .ok path ∧
        message =
          { method := action.operation.method
            endpoint := action.endpoint
            resourcePath := path
            headers := (action.addHeaders now built.headers).setAll custom
            body := built.body } := by
  constructor
  · intro makes
    obtain ⟨⟨_, _⟩, prepares, rfl⟩ := map_eq_ok.mp makes
    obtain ⟨_, made, rfl⟩ := prepare_eq_ok.mp prepares
    obtain ⟨_, path, same, relative, rfl⟩ := buildMessage_eq_ok.mp made
    cases same.symm.trans builds
    exact ⟨path, relative, rfl⟩
  · rintro ⟨path, relative, rfl⟩
    exact (message_eq_ok_of_buildMessage
      (buildMessage_eq_ok.mpr ⟨built, path, builds, relative, rfl⟩)).mpr rfl

/-! ### Setting out -/

/-- Why a request stays on the ground: it has no message, or nothing drives the call. -/
inductive Grounds (action : Action ρ γ α) (insideRuntime : Bool) (request : ρ) : CallError → Prop
  | message {reason : CallError} (refused : action.Refuses request reason) :
    Grounds action insideRuntime request reason
  | runtime {built : RequestMessage} {noted : γ}
    (made : action.buildMessage request = .ok (built, noted))
    (missing : (action.client.context.runtime || insideRuntime) = false) :
    Grounds action insideRuntime request Context.noRuntime

theorem takeOff_eq_ok {flight : Flight α} :
    action.takeOff now insideRuntime custom request = .ok flight ↔
      ∃ message noted, action.prepare now custom request = .ok (message, noted) ∧
        (action.client.context.runtime || insideRuntime) = true ∧
          flight =
            { context := action.client.context
              read := action.operation.readReply noted
              failure := action.failure
              abandoned := action.abandoned
              stage := action.firstStage message } := by
  unfold takeOff Context.findRuntime
  simp only [bind_eq_ok, mapError_eq_ok, Prod.exists]
  refine exists_congr fun message => exists_congr fun noted => and_congr_right fun _ => ?_
  cases action.client.context.runtime || insideRuntime with
  | false => simp
  | true =>
    constructor
    · rintro ⟨_, _, same⟩
      exact ⟨rfl, (Except.ok.inj same).symm⟩
    · rintro ⟨_, rfl⟩
      exact ⟨(), rfl, rfl⟩

theorem takeOff_eq_error {error : CallError} :
    action.takeOff now insideRuntime custom request = .error error ↔
      ∃ reason, action.Grounds insideRuntime request reason ∧ error = action.withId reason := by
  unfold takeOff Context.findRuntime
  simp only [bind_eq_error, mapError_eq_error, mapError_eq_ok]
  constructor
  · rintro (failed | ⟨⟨message, noted⟩, prepares, ⟨reason, missing, rfl⟩ | ⟨_, _, launched⟩⟩)
    · obtain ⟨reason, refused, rfl⟩ := prepare_eq_error.mp failed
      exact ⟨reason, .message refused, rfl⟩
    · obtain ⟨built, builds, _⟩ := prepare_eq_ok.mp prepares
      cases driven : action.client.context.runtime || insideRuntime with
      | false =>
        rw [driven] at missing
        cases missing
        exact ⟨_, .runtime builds driven, rfl⟩
      | true =>
        rw [driven] at missing
        cases missing
    · cases launched
  · rintro ⟨reason, grounded, rfl⟩
    cases grounded with
    | message refused => exact .inl (prepare_eq_error.mpr ⟨reason, refused, rfl⟩)
    | runtime builds missing =>
      refine .inr ⟨_, prepare_eq_ok.mpr ⟨_, builds, rfl⟩, .inl ⟨_, ?_, rfl⟩⟩
      rw [missing]
      rfl

/-! ### Headers -/

/-- What a request has under a name whatever its operation gives: the request id of the action, if
there is one, and the version of the interface. -/
def needed? (action : Action ρ γ α) (name : String) : Option String :=
  (action.requestId.bind fun id => HeaderFields.under requestIdHeader id name).or
    (HeaderFields.under versionHeader version name)

/-- What a request has under a name if its operation gives nothing there: the date and the type of
the body. -/
def default? (now : Moment) (name : String) : Option String :=
  (HeaderFields.under "Date" now.date.http name).or
    (HeaderFields.under "Content-Type" defaultContentType name)

theorem needed?_eq_none {name : String} :
    action.needed? name = none ↔
      (∀ id, action.requestId = some id → Ascii.lower requestIdHeader ≠ Ascii.lower name) ∧
        Ascii.lower versionHeader ≠ Ascii.lower name := by
  rw [needed?, Option.or_eq_none_iff, HeaderFields.under_eq_none]
  cases action.requestId <;> simp

theorem default?_eq_none {name : String} :
    default? now name = none ↔
      Ascii.lower "Date" ≠ Ascii.lower name ∧ Ascii.lower "Content-Type" ≠ Ascii.lower name := by
  rw [default?, Option.or_eq_none_iff, HeaderFields.under_eq_none, HeaderFields.under_eq_none]

/-- With the headers that every request needs, the action's own go before those of the operation,
and these before defaults. -/
theorem get?_addHeaders (headers : HeaderFields) (name : String) :
    (action.addHeaders now headers).get? name =
      (action.needed? name).or ((headers.get? name).or (default? now name)) := by
  unfold addHeaders needed? default?
  cases action.requestId with
  | none =>
    rw [HeaderFields.get?_setDefault, HeaderFields.get?_setDefault, HeaderFields.get?_set_or]
    simp only [Option.bind_none, Option.none_or, Option.or_assoc]
  | some id =>
    rw [HeaderFields.get?_set_or, HeaderFields.get?_setDefault, HeaderFields.get?_setDefault,
      HeaderFields.get?_set_or]
    simp only [Option.bind_some, Option.or_assoc]

/-- The headers that every request needs leave the entries of all other names, and a date and a type
of the body that are there. -/
theorem mem_addHeaders {headers : HeaderFields} {entry : String × String}
    (notNeeded : action.needed? entry.1 = none)
    (kept : default? now entry.1 = none ∨ (headers.get? entry.1).isSome) :
    entry ∈ (action.addHeaders now headers).entries ↔ entry ∈ headers.entries := by
  obtain ⟨notId, notVersion⟩ := needed?_eq_none.mp notNeeded
  have needed :
      entry ∈ (((headers.set versionHeader version).setDefault "Date" now.date.http).setDefault
          "Content-Type" defaultContentType).entries ↔
        entry ∈ headers.entries := by
    rw [HeaderFields.mem_setDefault_of_kept, HeaderFields.mem_setDefault_of_kept,
      HeaderFields.mem_set_of_ne notVersion.symm]
    · refine kept.imp (fun none => (default?_eq_none.mp none).1.symm) fun held => ?_
      simp [HeaderFields.get?_set_or, held]
    · refine kept.imp (fun none => (default?_eq_none.mp none).2.symm) fun held => ?_
      simp [HeaderFields.get?_setDefault, HeaderFields.get?_set_or, held]
  unfold addHeaders
  cases given : action.requestId with
  | none => exact needed
  | some id => exact (HeaderFields.mem_set_of_ne (notId id given).symm _ id).trans needed

/-- A header of the message is the caller's own last one of its name, else the action's, else the
operation's, else a default. -/
theorem get?_message {message built : RequestMessage}
    (builds : action.operation.build request = .ok (built, noted))
    (made : action.message now custom request = .ok message) (name : String) :
    message.header? name =
      ((custom.reverse.find? fun entry => Ascii.sameIgnoringCase entry.1 name).map (·.2)).or
        ((action.needed? name).or ((built.header? name).or (default? now name))) := by
  obtain ⟨_, _, rfl⟩ := (message_eq_ok_of_build builds).mp made
  rw [RequestMessage.header?, HeaderFields.get?_setAll, get?_addHeaders, RequestMessage.header?]

end Action

end SignedQueue

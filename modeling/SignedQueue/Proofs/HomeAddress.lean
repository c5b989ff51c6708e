import Mathlib
import SignedQueue.Proofs.SignedResource
import SignedQueue.Proofs.CallOutcome
/-!
**Requests go to the endpoint.** Whatever path an operation gives, a request that is handed over to
the transport goes to the scheme and the authority of the client's endpoint. A path that is an
address of its own is accepted if it is the endpoint, followed by nothing, a path or a query, and
only then.

* `Scheme.KeepsAddress`: what a signature scheme has to leave alone;
* `Action.Extends`: what a path adds to an endpoint;
* `Action.url_message`: the address of a message;
* `Action.exists_message_of_sent`, `Action.voyage_of_foreign`: what is sent, and what never is;
* `Action.voyage_stays_home`: what is sent goes to the endpoint, and no other address is accepted.
-/

namespace SignedQueue

/-! ### Signing leaves the address alone -/

/-- A scheme that does not change where a message goes. -/
def Scheme.KeepsAddress (scheme : Scheme) : Prop :=
  ∀ credential message, (scheme.sign credential message).message.url = message.url

/-- The service's own scheme only sets headers. -/
theorem Scheme.keepsAddress_headerSignature : headerSignature.KeepsAddress := by
  intro credential message
  simp only [headerSignature, signed, setToken]
  split <;> rfl

namespace SignCall

theorem url_step {call : SignCall} (keeps : call.signer.scheme.KeepsAddress) (now : Moment)
    (cache : CredentialCache) :
    (call.step now cache).2.signer = call.signer ∧
      (call.step now cache).2.message.url = call.message.url := by
  have moves := call.moves_step now cache
  generalize call.step now cache = next at moves ⊢
  cases moves with
  | signs given stage =>
    cases given with
    | none => exact ⟨rfl, rfl⟩
    | some credential => exact ⟨rfl, keeps credential call.message⟩
  | _ => exact ⟨rfl, rfl⟩

theorem url_after {call : SignCall} (keeps : call.signer.scheme.KeepsAddress)
    (instants : List Instant) : (call.after instants).message.url = call.message.url := by
  induction instants generalizing call with
  | nil => rfl
  | cons instant rest ih =>
    obtain ⟨signer, url⟩ := url_step keeps instant.1 instant.2
    rw [after, List.foldl_cons, ← after, ih (signer ▸ keeps), url]

end SignCall

/-- A client whose scheme leaves addresses alone signs a message for the address that it has. -/
theorem Client.url_signed {client : Client} {message form : RequestMessage}
    {instants : List Instant} (keeps : ∀ signer ∈ client.signer, signer.scheme.KeepsAddress)
    (ready : client.signed message instants = some (.ok form)) : form.url = message.url := by
  cases signs : client.signer with
  | none =>
    rw [signed, signs] at ready
    cases ready
    rfl
  | some signer =>
    rw [signed_of_signer signs, SignCall.signed?, Option.map_eq_some_iff] at ready
    obtain ⟨result, _, made⟩ := ready
    obtain ⟨_, _, rfl⟩ := map_eq_ok.mp made
    have kept : (signer.call message).signer.scheme.KeepsAddress := keeps signer signs
    exact SignCall.url_after kept instants

namespace Action

/-! ### Paths and endpoints -/

/-- What may follow an endpoint in an address at it: nothing, a path or a query. -/
def Continues (tail : String) : Prop :=
  tail.toList.head? ∈ [none, some '/', some '?']
  deriving Decidable

/-- What a path adds to an endpoint, less the slashes at its beginning. A path that is an address of
its own has to be an address at the endpoint. -/
inductive Extends (endpoint path : String) : String → Prop
  | relative (relative : isAbsolute path = false) :
    Extends endpoint path (RequestMessage.trimSlashesStart path)
  | absolute {tail : String} (absolute : isAbsolute path = true)
    (home : path = RequestMessage.trimSlashesEnd endpoint ++ tail) (follows : Continues tail) :
    Extends endpoint path (RequestMessage.trimSlashesStart tail)

theorem relativeTo_eq_some {endpoint path tail : String} :
    relativeTo endpoint path = some tail ↔
      path = RequestMessage.trimSlashesEnd endpoint ++ tail ∧ Continues tail := by
  have joined : path = RequestMessage.trimSlashesEnd endpoint ++ tail ↔
      (RequestMessage.trimSlashesEnd endpoint).toList ++ tail.toList = path.toList := by
    rw [← String.toList_inj, String.toList_append, eq_comm]
  unfold relativeTo
  rw [joined]
  generalize (RequestMessage.trimSlashesEnd endpoint).toList = base
  simp only
  by_cases begins : base <+: path.toList
  · obtain ⟨rest, whole⟩ := begins
    rw [← whole, if_pos (by simp), List.drop_left, List.append_cancel_left_eq, Continues]
    constructor
    · intro found
      split at found
      all_goals cases found
      all_goals simp
    · rintro ⟨rfl, follows⟩
      split
      · rename_i empty
        rw [String.toList_eq_nil_iff.mp empty]
      · rename_i slash
        rw [← slash, String.ofList_toList]
      · rename_i mark
        rw [← mark, String.ofList_toList]
      · rename_i filled noSlash noMark
        cases whole : tail.toList with
        | nil => exact absurd whole filled
        | cons first rest => simp_all
  · rw [if_neg (by simpa using begins)]
    refine iff_of_false nofun ?_
    rintro ⟨whole, _⟩
    exact begins ⟨_, whole⟩

variable {ρ γ α : Type} {action : Action ρ γ α} {now : Moment} {insideRuntime callback : Bool}
  {custom : List (String × String)} {request : ρ} {noted : γ} {raw : RequestMessage}

/-- The address of a message is the endpoint, one slash, and what its path adds. -/
theorem url_message {message : RequestMessage}
    (builds : action.operation.build request = .ok (raw, noted))
    (made : action.message now custom request = .ok message) :
    message.endpoint = action.endpoint ∧
      ∃ rest, Extends action.endpoint raw.resourcePath rest ∧
        message.url = RequestMessage.trimSlashesEnd action.endpoint ++ "/" ++ rest := by
  obtain ⟨path, placed, rfl⟩ := (message_eq_ok_of_build builds).mp made
  refine ⟨rfl, RequestMessage.trimSlashesStart path, ?_, rfl⟩
  cases own : isAbsolute raw.resourcePath with
  | false =>
    rw [relativePath, own] at placed
    cases placed
    exact .relative own
  | true =>
    obtain ⟨home, follows⟩ := relativeTo_eq_some.mp ((relativePath_eq_ok own).mp placed)
    exact .absolute own home follows

/-- What a path adds to an endpoint does not begin with a slash. -/
theorem Extends.head?_ne {endpoint path rest : String} (adds : Extends endpoint path rest) :
    rest.toList.head? ≠ some '/' := by
  have trims (text : String) : (RequestMessage.trimSlashesStart text).toList.head? ≠ some '/' := by
    intro slash
    have stops := List.head?_dropWhile_not (· = '/') text.toList
    rw [RequestMessage.trimSlashesStart, String.toList_ofList] at slash
    rw [slash] at stops
    cases stops
  cases adds with
  | relative => exact trims _
  | absolute => exact trims _

/-- An address that begins with an endpoint goes to its host. -/
theorem host_of_parse {config : Config} (valid : config.validate = .ok ()) {rest : String}
    {target : Target}
    (parsed : Target.parse (RequestMessage.trimSlashesEnd config.endpoint ++ "/" ++ rest) =
      .ok target) :
    ∃ home, Target.parse config.endpoint = .ok home ∧ home.authority.isSome ∧
      target.scheme = home.scheme ∧ target.authority = home.authority := by
  obtain ⟨address, same⟩ := WebAddress.exists_of_validate valid
  obtain ⟨home, parsedHome⟩ : ∃ home, Target.parse config.endpoint = .ok home := by
    unfold Config.validate at valid
    cases found : Target.parse config.endpoint with
    | error fault =>
      rw [found] at valid
      cases valid
    | ok home => exact ⟨home, rfl⟩
  obtain ⟨scheme, authority⟩ := address.host_eq same parsedHome
  have joined : (RequestMessage.trimSlashesEnd config.endpoint ++ "/" ++ rest).toList =
      (address.join rest.toList).characters := by
    rw [WebAddress.characters_join, ← same]
    simp [RequestMessage.trimSlashesEnd, trimmed, List.rdropWhile]
  obtain ⟨scheme', authority'⟩ := (address.join rest.toList).host_eq joined parsed
  refine ⟨home, parsedHome, by rw [authority]; rfl, ?_, ?_⟩
  · rw [scheme, scheme']
    rfl
  · rw [authority, authority']
    rfl

/-- A path that is an address of its own has a message exactly if it is an address at the endpoint.
-/
theorem exists_message_iff (builds : action.operation.build request = .ok (raw, noted))
    (absolute : isAbsolute raw.resourcePath = true) :
    (∃ message, action.message now custom request = .ok message) ↔
      ∃ tail, raw.resourcePath = RequestMessage.trimSlashesEnd action.endpoint ++ tail ∧
        Continues tail := by
  simp only [← relativeTo_eq_some, ← relativePath_eq_ok absolute]
  constructor
  · rintro ⟨message, made⟩
    obtain ⟨path, placed, _⟩ := (message_eq_ok_of_build builds).mp made
    exact ⟨path, placed⟩
  · rintro ⟨path, placed⟩
    exact ⟨_, (message_eq_ok_of_build builds).mpr ⟨path, placed, rfl⟩⟩

/-- What is handed over to the transport is a message as it was signed, at its address. -/
theorem exists_message_of_sent
    (keeps : ∀ signer ∈ action.client.signer, signer.scheme.KeepsAddress)
    {reply : Option (Attempt Response)} {events : List Underway.Event} {sent : HttpRequest}
    (member : sent ∈
      handedOver (action.voyage now insideRuntime callback custom request reply events)) :
    ∃ message, action.message now custom request = .ok message ∧
      Target.parse message.url = .ok sent.target := by
  unfold Action.voyage at member
  cases setsOut : action.setOut now insideRuntime callback custom request with
  | error error =>
    rw [setsOut] at member
    cases member
  | ok start =>
    rw [setsOut] at member
    change sent ∈ (start.run reply events).flight.sent at member
    obtain ⟨message, _, prepares, supervised⟩ := Underway.supervised_setOut setsOut
    have later := Underway.supervised_run (supervised reply) events
    rcases later.follows.place.hands with nothing | ⟨form, travelling, ready, travels, same⟩
    · rw [nothing] at member
      cases member
    · rw [same, List.mem_singleton] at member
      obtain ⟨parsed, _⟩ := RequestMessage.toHttp_eq_ok travels
      rw [Client.url_signed keeps ready, ← member] at parsed
      exact ⟨message, message_of_prepare prepares, parsed⟩

/-- A path that is an address of its own, but not at the endpoint, stays on the ground. -/
theorem voyage_of_foreign (builds : action.operation.build request = .ok (raw, noted))
    (absolute : isAbsolute raw.resourcePath = true)
    (foreign : relativeTo action.endpoint raw.resourcePath = none)
    (reply : Option (Attempt Response)) (events : List Underway.Event) :
    ∃ error, action.voyage now insideRuntime callback custom request reply events = .error error ∧
      error.kind = .invalidArgument := by
  have failed : action.setOut now insideRuntime callback custom request = .error _ :=
    setOut_eq_error.mpr ⟨_, .message (.path builds absolute foreign), rfl⟩
  rw [Action.voyage, failed]
  exact ⟨_, rfl, rfl⟩

/-- **No request leaves the endpoint.** What is handed over to the transport goes to the scheme and
the authority of the endpoint, and is read off the endpoint, one slash, and what the operation's
path adds. A path that is an address of its own is accepted exactly if it is the endpoint followed
by nothing, a path or a query, and else nothing is sent. -/
theorem voyage_stays_home (valid : action.client.config.validate = .ok ())
    (keeps : ∀ signer ∈ action.client.signer, signer.scheme.KeepsAddress)
    (builds : action.operation.build request = .ok (raw, noted)) (now : Moment)
    (insideRuntime callback : Bool) (custom : List (String × String))
    (reply : Option (Attempt Response)) (events : List Underway.Event) :
    let voyage := action.voyage now insideRuntime callback custom request reply events
    (∀ sent ∈ handedOver voyage,
      ∃ home rest, Target.parse action.endpoint = .ok home ∧ home.authority.isSome ∧
        sent.target.scheme = home.scheme ∧ sent.target.authority = home.authority ∧
          Extends action.endpoint raw.resourcePath rest ∧ rest.toList.head? ≠ some '/' ∧
            Target.parse (RequestMessage.trimSlashesEnd action.endpoint ++ "/" ++ rest) =
              .ok sent.target) ∧
      (isAbsolute raw.resourcePath = true →
        ((∃ message, action.message now custom request = .ok message) ↔
            ∃ tail, raw.resourcePath = RequestMessage.trimSlashesEnd action.endpoint ++ tail ∧
              Continues tail) ∧
          ((¬ ∃ tail, raw.resourcePath = RequestMessage.trimSlashesEnd action.endpoint ++ tail ∧
              Continues tail) →
            handedOver voyage = [] ∧
              ∃ error, voyage = .error error ∧ error.kind = .invalidArgument)) := by
  intro voyage
  refine ⟨fun sent member => ?_, fun absolute => ⟨exists_message_iff builds absolute, ?_⟩⟩
  · obtain ⟨message, made, parsed⟩ := exists_message_of_sent keeps member
    obtain ⟨_, rest, adds, url⟩ := url_message builds made
    rw [url] at parsed
    obtain ⟨home, parsedHome, hosted, scheme, authority⟩ := host_of_parse valid parsed
    exact ⟨home, rest, parsedHome, hosted, scheme, authority, adds, adds.head?_ne, parsed⟩
  · intro foreign
    have elsewhere : relativeTo action.endpoint raw.resourcePath = none := by
      rw [Option.eq_none_iff_forall_ne_some]
      exact fun tail found => foreign ⟨tail, relativeTo_eq_some.mp found⟩
    obtain ⟨error, failed, kind⟩ := voyage_of_foreign builds absolute elsewhere reply events
    exact ⟨congrArg handedOver failed, error, failed, kind⟩

/-- An action whose requests are paths, of a client that signs. -/
def fetch : Action String Unit Unit where
  operation :=
    { name := "Fetch"
      method := .get
      build := fun path => .ok ({ method := .get, resourcePath := path }, ())
      reply := .ignore ()
      refusal := fun _ => .brokeDown none }
  client :=
    { context := { transport := true, runtime := true }
      config := { endpoint := "http://user@host:80/one//" }
      signer := some ⟨.fixed ⟨"AK", "SK", none, none⟩, .headerSignature⟩ }
  requestId := none

/-- An address whose host only begins like that of the endpoint is refused, and a path that holds
another user goes to the endpoint. -/
theorem voyage_stays_home_lookalike :
    fetch.client.config.validate = .ok () ∧
      (∃ error, fetch.voyage 0 false false [] "http://user@host:80/one.net" none
          (List.replicate 5 (.advance 0 {})) = .error error ∧ error.kind = .invalidArgument) ∧
        ∃ sent ∈ handedOver (fetch.voyage 0 false false [] "//me@net:80/two" none
            (List.replicate 5 (.advance 0 {}))),
          sent.target.scheme = some "http" ∧ sent.target.authority = some "user@host:80" := by
  have valid : fetch.client.config.validate = .ok () := by decide +kernel
  have keeps : ∀ signer ∈ fetch.client.signer, signer.scheme.KeepsAddress := by
    rintro signer ⟨⟩
    exact Scheme.keepsAddress_headerSignature
  have home : Target.parse fetch.endpoint =
      .ok ⟨some "http", some "user@host:80", "/one//", none⟩ := by decide +kernel
  have sends : handedOver (fetch.voyage 0 false false [] "//me@net:80/two" none
      (List.replicate 5 (.advance 0 {}))) ≠ [] := by
    decide +kernel
  refine ⟨valid, ?_, ?_⟩
  · have builds : fetch.operation.build "http://user@host:80/one.net" =
        .ok ({ method := .get, resourcePath := "http://user@host:80/one.net" }, ()) := rfl
    have stays := voyage_stays_home valid keeps builds 0 false false [] none
      (List.replicate 5 (.advance 0 {}))
    have foreign : relativeTo fetch.endpoint "http://user@host:80/one.net" = none := by
      decide +kernel
    refine ((stays.2 (by decide +kernel)).2 ?_).2
    rintro ⟨tail, home⟩
    cases foreign.symm.trans (relativeTo_eq_some.mpr home)
  · obtain ⟨sent, member⟩ := List.exists_mem_of_ne_nil _ sends
    have builds : fetch.operation.build "//me@net:80/two" =
        .ok ({ method := .get, resourcePath := "//me@net:80/two" }, ()) := rfl
    have stays := voyage_stays_home valid keeps builds 0 false false [] none
      (List.replicate 5 (.advance 0 {}))
    obtain ⟨target, _, parsed, _, scheme, authority, _⟩ := stays.1 sent member
    cases parsed.symm.trans home
    exact ⟨sent, member, scheme, authority⟩

end Action

end SignedQueue

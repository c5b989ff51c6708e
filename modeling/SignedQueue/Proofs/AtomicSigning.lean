import Mathlib
import SignedQueue.Proofs.Course
import SignedQueue.Proofs.CustomHeaders
/-!
**Signing is all or nothing.** A call that signs either fails and leaves its message as it was, or
it signs the message, and then nothing but the two headers of a signature differs. A message that is
signed once more under the same credential stays as it is.

* `Scheme.signed_signed`: the signed form of a signed message;
* `Scheme.Touches`: what signing may change in a message;
* `Scheme.AllOrNothing`: a scheme that signs as the service's own does, or fails and leaves the
  message alone;
* `SignCall.Settles`, `SignCall.Settles.step`: what a call has made of its message all along;
* `Signer.signs_atomically`: what it has made of it at any time, whatever other calls go on.
-/

namespace SignedQueue

/-! ### What signing changes -/

namespace Scheme

variable {credential : Credential} {message : RequestMessage}

/-- Of two messages the second differs at most in the headers that signing sets. -/
structure Touches (credential : Credential) (before after : RequestMessage) : Prop where
  only : after = { before with headers := after.headers }
  others :
    ∀ entry, ¬ Sets (some credential) entry.1 →
      (entry ∈ after.headers.entries ↔ entry ∈ before.headers.entries)

theorem touches_signed (credential : Credential) (message : RequestMessage) :
    Touches credential message (signed credential message) := by
  constructor
  · unfold signed setToken
    cases credential.sessionToken <;> rfl
  · intro entry untouched
    obtain ⟨notSigned, notToken⟩ := ne_of_not_sets untouched
    rw [signed, RequestMessage.setHeader, HeaderFields.mem_set_of_ne notSigned, setToken]
    cases session : credential.sessionToken with
    | none => rfl
    | some token => exact HeaderFields.mem_set_of_ne (notToken token session) _ token

/-- The text to sign is the same after signing, so that the same signature is set again. -/
theorem signed_signed (credential : Credential) (message : RequestMessage) :
    signed credential (signed credential message) = signed credential message := by
  have apart : Ascii.lower tokenHeader ≠ Ascii.lower authorizationHeader := by decide +kernel
  rw [signed, stringToSign_signed]
  unfold signed setToken RequestMessage.setHeader
  cases credential.sessionToken with
  | none => simp only [HeaderFields.set_set_same]
  | some token => simp only [HeaderFields.set_set_again apart]

/-- A scheme that signs a message as the service's own does, or fails and leaves it as it is. -/
def AllOrNothing (scheme : Scheme) : Prop :=
  ∀ credential message,
    (scheme.sign credential message).result = .ok () ∧
        (scheme.sign credential message).message = signed credential message ∨
      (∃ reason, (scheme.sign credential message).result = .error reason) ∧
        (scheme.sign credential message).message = message

theorem allOrNothing_headerSignature : headerSignature.AllOrNothing :=
  fun _ _ => .inl ⟨rfl, rfl⟩

end Scheme

/-! ### One call -/

namespace Signer

theorem kind_unsigned (error : CallError) : (unsigned error).kind = .signatureFailed := by
  unfold unsigned
  split
  · assumption
  · rfl

/-- The provider or the scheme of a signer may break down over a message. -/
def MayBreakDown (signer : Signer) (message : RequestMessage) (said : Option String) : Prop :=
  (∃ number, signer.provider.answer number = .error (.brokeDown said)) ∨
    ∃ credential, (signer.scheme.sign credential message).result = .error (.brokeDown said)

end Signer

namespace SignCall

/-- How far a call has come that makes a form of a message, and what the form is by then. -/
inductive Stage.Settles (signer : Signer) (message : RequestMessage) (under : Credential → Prop)
    (form : RequestMessage) : Stage → Prop
  | underway {stage : Stage} (unended : ∀ result, stage ≠ .ended result)
    (untouched : form = message) : Settles signer message under form stage
  | failed (error : CallError) (kind : error.kind = .signatureFailed) (untouched : form = message) :
    Settles signer message under form (.ended (.error (.failed error)))
  | brokeDown (said : Option String) (broke : signer.MayBreakDown message said)
    (untouched : form = message) :
    Settles signer message under form (.ended (.error (.brokeDown said)))
  | signed (credential : Credential) (found : under credential)
    (made : form = Scheme.signed credential message) :
    Settles signer message under form (.ended (.ok ()))

/-- A call that has signed a message under a credential that it has come by, or has left the message
as it was. -/
structure Settles (signer : Signer) (message : RequestMessage) (under : Credential → Prop)
    (call : SignCall) : Prop where
  through : call.signer = signer
  place : call.stage.Settles signer message under call.message

variable {signer : Signer} {message : RequestMessage} {under : Credential → Prop} {call : SignCall}

theorem Stage.Settles.untouched {form : RequestMessage} {stage : Stage}
    (settles : stage.Settles signer message under form)
    (unsigned : stage ≠ .ended (.ok ())) : form = message := by
  cases settles with
  | underway _ untouched | failed _ _ untouched | brokeDown _ _ untouched => exact untouched
  | signed => exact absurd rfl unsigned

/-- What a call has settled that has ended with a result. -/
theorem Settles.ended (settles : call.Settles signer message under) {result : Attempt Unit}
    (ended : call.result? = some result) :
    (Stage.ended result).Settles signer message under call.message := by
  have place := settles.place
  cases stage : call.stage with
  | ended given =>
    rw [result?, stage] at ended
    rw [stage, Option.some.inj ended] at place
    exact place
  | _ => simp [result?, stage] at ended

theorem Settles.untouched (settles : call.Settles signer message under)
    (unsigned : call.result? ≠ some (.ok ())) : call.message = message := by
  apply settles.place.untouched
  intro signed
  exact unsigned (by rw [result?, signed])

theorem Settles.kind (settles : call.Settles signer message under) (error : CallError)
    (ended : call.result? = some (.error (.failed error))) : error.kind = .signatureFailed := by
  cases settles.ended ended with
  | underway unended => exact absurd rfl (unended _)
  | failed _ kind => exact kind

theorem Settles.brokeDown (settles : call.Settles signer message under) (said : Option String)
    (ended : call.result? = some (.error (.brokeDown said))) :
    signer.MayBreakDown message said := by
  cases settles.ended ended with
  | underway unended => exact absurd rfl (unended _)
  | brokeDown _ broke => exact broke

theorem Settles.exists_signed (settles : call.Settles signer message under)
    (ended : call.result? = some (.ok ())) :
    ∃ credential, under credential ∧ call.message = Scheme.signed credential message := by
  cases settles.ended ended with
  | underway unended => exact absurd rfl (unended _)
  | signed credential found made => exact ⟨credential, found, made⟩

theorem Settles.signWith (settles : call.Settles signer message under)
    (tidy : signer.scheme.AllOrNothing) (untouched : call.message = message)
    {given : Option Credential} (found : ∀ credential, given = some credential → under credential) :
    (call.signWith given).Settles signer message under := by
  refine ⟨?_, ?_⟩
  · cases given <;> exact settles.through
  cases given with
  | none => exact .failed Signer.noCredential rfl untouched
  | some credential =>
    have same := settles.through
    obtain ⟨through, form, log, stage⟩ := call
    obtain rfl : through = signer := same
    obtain rfl : form = message := untouched
    show Stage.Settles _ _ _ (through.scheme.sign credential form).message
      (.ended ((through.scheme.sign credential form).result.mapError
        (Signer.reword Signer.unsigned)))
    rcases tidy credential form with ⟨done, made⟩ | ⟨⟨reason, failed⟩, left⟩
    · rw [done]
      exact .signed credential (found credential rfl) made
    · rw [failed]
      cases reason with
      | failed error => exact .failed _ (Signer.kind_unsigned error) left
      | brokeDown said => exact .brokeDown said (.inr ⟨credential, failed⟩) left

theorem Settles.step (settles : call.Settles signer message under)
    (tidy : signer.scheme.AllOrNothing)
    (found : ∀ credential, call.stage = .signing (some credential) → under credential)
    (now : Moment) (cache : CredentialCache) :
    (call.step now cache).2.Settles signer message under := by
  have same := settles.through
  have moves := call.moves_step now cache
  generalize call.step now cache = next at moves ⊢
  cases moves with
  | finds stage | asks stage | hears _ _ stage | keeps _ stage =>
    exact ⟨same, .underway nofun (settles.place.untouched (by simp [stage]))⟩
  | refused number reason stage fails =>
    have untouched := settles.place.untouched (by simp [stage])
    rw [same] at fails
    cases reason with
    | failed error => exact ⟨same, .failed (Signer.unresolved error) rfl untouched⟩
    | brokeDown said => exact ⟨same, .brokeDown said (.inl ⟨number, fails⟩) untouched⟩
  | signs given stage =>
    -- the only step that may touch the message
    refine settles.signWith tidy (settles.place.untouched (by simp [stage])) ?_
    rintro credential rfl
    exact found credential stage
  | rests => exact settles

/-! ### A call among others -/

/-- A call comes to sign under a credential at one of some instants. -/
def SignsUnder (call : SignCall) (instants : List Instant) (credential : Credential) : Prop :=
  ∃ earlier instant later, instants = earlier ++ instant :: later ∧
    (call.after earlier).stage = .signing (some credential)

theorem Settles.mono (settles : call.Settles signer message under) {wider : Credential → Prop}
    (implied : ∀ credential, under credential → wider credential) :
    call.Settles signer message wider := by
  obtain ⟨through, place⟩ := settles
  refine ⟨through, ?_⟩
  generalize call.stage = stage at place ⊢
  cases place with
  | underway unended untouched => exact .underway unended untouched
  | failed error kind untouched => exact .failed error kind untouched
  | brokeDown said broke untouched => exact .brokeDown said broke untouched
  | signed credential found made => exact .signed credential (implied credential found) made

theorem settles_after (tidy : signer.scheme.AllOrNothing) (message : RequestMessage)
    (instants : List Instant) :
    ((signer.call message).after instants).Settles signer message
      ((signer.call message).SignsUnder instants) := by
  induction instants using List.reverseRecOn with
  | nil => exact ⟨rfl, .underway nofun rfl⟩
  | append_singleton earlier last ih =>
    rw [after_concat]
    refine (ih.mono ?_).step tidy ?_ last.1 last.2
    · rintro credential ⟨before, instant, later, rfl, signs⟩
      exact ⟨before, instant, later ++ [last], by simp, signs⟩
    · intro credential signs
      exact ⟨earlier, last, [], rfl, signs⟩

theorem result?_signWith (call : SignCall) (credential : Credential) :
    (call.signWith (some credential)).result? =
      some ((call.signer.scheme.sign credential call.message).result.mapError
        (Signer.reword Signer.unsigned)) :=
  rfl

/-- A call that has come to sign under a credential has ended with what its scheme makes of it. -/
theorem result?_of_signsUnder (tidy : signer.scheme.AllOrNothing) {instants : List Instant}
    {credential : Credential} (signs : (signer.call message).SignsUnder instants credential) :
    ((signer.call message).after instants).result? =
      some ((signer.scheme.sign credential message).result.mapError
        (Signer.reword Signer.unsigned)) := by
  obtain ⟨earlier, instant, later, rfl, stage⟩ := signs
  have settles := settles_after tidy message earlier
  -- a call that is about to sign still has the message that it was given
  have untouched := settles.place.untouched (by simp [stage])
  have step : (((signer.call message).after earlier).step instant.1 instant.2).2 =
      ((signer.call message).after earlier).signWith (some credential) := by
    rw [step_signs stage]
  have ended : (((signer.call message).after earlier).signWith (some credential)).result? =
      some ((signer.scheme.sign credential message).result.mapError
        (Signer.reword Signer.unsigned)) := by
    rw [result?_signWith, settles.through, untouched]
  have whole : (signer.call message).after (earlier ++ instant :: later) =
      (((signer.call message).after earlier).signWith (some credential)).after later := by
    rw [← step, after, List.foldl_append, List.foldl_cons]
    rfl
  rw [whole, after_of_result ended, ended]

/-- Steps in a row are steps at some instants. -/
theorem exists_after_eq_steps (now : Moment) (count : Nat) (cache : CredentialCache)
    (call : SignCall) : ∃ instants, (call.steps now count cache).2 = call.after instants := by
  induction count generalizing cache call with
  | zero => exact ⟨[], rfl⟩
  | succ count ih =>
    obtain ⟨rest, same⟩ := ih (call.step now cache).1 (call.step now cache).2
    exact ⟨(now, cache) :: rest, same⟩

end SignCall

namespace Signer

variable {signer : Signer}

/-- What a call through a signer has made of a message after a step at each of some instants. -/
structure Atomic (signer : Signer) (message : RequestMessage) (instants : List Instant)
    (call : SignCall) : Prop where
  untouched : call.result? ≠ some (.ok ()) → call.message = message
  kind :
    ∀ error, call.result? = some (.error (.failed error)) → error.kind = .signatureFailed
  brokeDown :
    ∀ said, call.result? = some (.error (.brokeDown said)) → signer.MayBreakDown message said
  /-- Under a credential it depends on the scheme alone whether the message is signed. -/
  decided :
    ∀ credential, (signer.call message).SignsUnder instants credential →
      call.result? =
        some ((signer.scheme.sign credential message).result.mapError (reword unsigned))
  signed :
    call.result? = some (.ok ()) → ∃ credential,
      (signer.call message).SignsUnder instants credential ∧
        Scheme.Touches credential message call.message ∧
          ∀ (other : Signer) (later : List Instant), other.scheme.AllOrNothing →
            (∀ used, (other.call call.message).SignsUnder later used → used = credential) →
              ((other.call call.message).after later).message = call.message

/-- A message that is signed already stays as it is when it is signed again under no other
credential. -/
theorem message_after_signed (tidy : signer.scheme.AllOrNothing) {credential : Credential}
    {message : RequestMessage} {later : List Instant}
    (same : ∀ used, (signer.call (Scheme.signed credential message)).SignsUnder later used →
      used = credential) :
    ((signer.call (Scheme.signed credential message)).after later).message =
      Scheme.signed credential message := by
  have settles := SignCall.settles_after tidy (Scheme.signed credential message) later
  by_cases done : ((signer.call (Scheme.signed credential message)).after later).result? =
      some (.ok ())
  · obtain ⟨used, found, made⟩ := settles.exists_signed done
    rw [made, same used found, Scheme.signed_signed]
  · exact settles.untouched done

/-- Whatever other calls do to what the clones of a signer share, a call that has not signed its
message has left it as it was, and its error says that the signature failed. A call that has signed
it has changed the headers of a signature alone, and signing once more under the same credential
changes nothing. A call that no other comes between is one of these, and ends. -/
theorem signs_atomically (tidy : signer.scheme.AllOrNothing) (message : RequestMessage) :
    (∀ instants, signer.Atomic message instants ((signer.call message).after instants)) ∧
      ∀ now cache, ∃ instants result,
        (signer.sign now cache message).2 = (signer.call message).after instants ∧
          (signer.sign now cache message).2.result? = some result := by
  constructor
  · intro instants
    have settles := SignCall.settles_after tidy message instants
    refine ⟨settles.untouched, settles.kind, settles.brokeDown,
      fun _ => SignCall.result?_of_signsUnder tidy, fun done => ?_⟩
    obtain ⟨credential, found, made⟩ := settles.exists_signed done
    rw [made]
    exact ⟨credential, found, Scheme.touches_signed credential message,
      fun other later tidy' same => message_after_signed tidy' same⟩
  · intro now cache
    obtain ⟨instants, same⟩ := SignCall.exists_after_eq_steps now 4 cache (signer.call message)
    obtain ⟨result, ended⟩ := (signer.call message).finish_ends now cache
    exact ⟨instants, result, same, ended⟩

/-- A signer whose provider times out when it is asked first, and then lends a token. -/
def faltering : Signer where
  provider :=
    { shown := "Faltering"
      answer := fun asked =>
        match asked with
        | 0 => .error (.failed { kind := .timeout, message := "too late" })
        | _ => .ok (some ⟨"STS", "secret", some "lent", none⟩) }
  scheme := .headerSignature

/-- A message that was signed before, by someone who writes the names of headers differently. -/
def signedBefore : RequestMessage where
  method := .get
  resourcePath := "/queues"
  headers := .ofList [("AUTHORIZATION", "MNS other"), ("Date", "now"), ("Security-Token", "other")]

theorem signs_atomically_faltering :
    let refused := (faltering.sign 0 {} signedBefore).2
    let granted := (faltering.sign 0 { asked := 1 } signedBefore).2
    faltering.scheme.AllOrNothing ∧
      (∃ instants, faltering.Atomic signedBefore instants refused) ∧
        refused.result? ≠ some (.ok ()) ∧ refused.message = signedBefore ∧
          granted.result? = some (.ok ()) ∧
            ∃ instants credential, faltering.Atomic signedBefore instants granted ∧
              (faltering.call signedBefore).SignsUnder instants credential ∧
                Scheme.Touches credential signedBefore granted.message := by
  intro refused granted
  have tidy : faltering.scheme.AllOrNothing := Scheme.allOrNothing_headerSignature
  obtain ⟨atomic, ends⟩ := signs_atomically tidy signedBefore
  obtain ⟨early, _, sameRefused, _⟩ := ends 0 {}
  obtain ⟨late, _, sameGranted, _⟩ := ends 0 { asked := 1 }
  have first := atomic early
  rw [← sameRefused] at first
  have second := atomic late
  rw [← sameGranted] at second
  have failed : refused.result? ≠ some (.ok ()) := nofun
  have done : granted.result? = some (.ok ()) := rfl
  obtain ⟨credential, signs, touches, _⟩ := second.signed done
  exact ⟨tidy, ⟨early, first⟩, failed, first.untouched failed, done, late, credential, second,
    signs, touches⟩

end Signer

end SignedQueue

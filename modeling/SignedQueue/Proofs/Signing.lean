import Mathlib
import SignedQueue.Proofs.Departure
import SignedQueue.Proofs.CanonicalHeaders
import SignedQueue.Proofs.SigningSteps
/-!
**What the service's own scheme signs.** Signing adds two headers that the signature does not cover,
and a call sends nothing but the signed form of the message it set out with.

* `Scheme.stringToSign_signed`: signing does not change the text that is signed;
* `SignCall.Serves`, `Flight.Carries`: what holds of a call that signs, and of a flight, all along;
* `Flight.carries_run`: what a flight has sent is the signed form of its message.
-/

namespace SignedQueue

/-! ### The signed form of a message -/

namespace Scheme

/-- A message with a further header that the signature does not cover. -/
theorem stringToSign_setHeader {name : String} (value : String) (message : RequestMessage)
    (apart : ∀ covered ∈ ["Content-MD5", "Content-Type", "Date"],
      Ascii.lower name ≠ Ascii.lower covered)
    (foreign : Canonical.isService (Ascii.lower name) = false) :
    Canonical.stringToSign (message.setHeader name value) = Canonical.stringToSign message := by
  refine Canonical.stringToSign_congr rfl rfl (fun covered member => ?_) ?_
  · rw [RequestMessage.header?, RequestMessage.setHeader, HeaderFields.get?_set,
      if_neg (apart covered member), RequestMessage.header?]
  · refine Canonical.serviceHeaders_congr fun spelling kept service => ?_
    have differ : Ascii.lower spelling ≠ Ascii.lower name := fun same => by
      rw [same, foreign] at service
      cases service
    rw [RequestMessage.setHeader, HeaderFields.mem_set, or_iff_right, and_iff_left differ]
    rintro ⟨rfl, rfl⟩
    exact differ rfl

theorem stringToSign_setToken (credential : Credential) (message : RequestMessage) :
    Canonical.stringToSign (setToken credential message) = Canonical.stringToSign message := by
  unfold setToken
  split
  · rfl
  · exact stringToSign_setHeader _ _ (by decide +kernel) (by decide +kernel)

/-- Signing does not change the text that is signed. -/
theorem stringToSign_signed (credential : Credential) (message : RequestMessage) :
    Canonical.stringToSign (signed credential message) = Canonical.stringToSign message := by
  rw [signed, stringToSign_setHeader _ _ (by decide +kernel) (by decide +kernel),
    stringToSign_setToken]

@[simp]
theorem resource_signed (credential : Credential) (message : RequestMessage) :
    (signed credential message).resource = message.resource := by
  unfold signed setToken
  split <;> rfl

/-- The signed form of a message carries its signature. -/
theorem header?_signed (credential : Credential) (message : RequestMessage) :
    (signed credential message).header? authorizationHeader =
      some (authorization credential (Canonical.stringToSign message)) := by
  rw [RequestMessage.header?, signed, RequestMessage.setHeader, HeaderFields.get?_set, if_pos rfl]

end Scheme

/-! ### A call that signs -/

variable {provider : Provider} {message : RequestMessage} {may : Credential → Prop}

/-- A call that signs a message with the service's own scheme, and with a credential that it may
use. -/
structure SignCall.Serves (provider : Provider) (message : RequestMessage)
    (may : Credential → Prop) (call : SignCall) : Prop where
  signer : call.signer = ⟨provider, .headerSignature⟩
  untouched : call.result? = none → call.message = message
  storing : ∀ credential, call.stage = .storing (some credential) → may credential
  signing : ∀ credential, call.stage = .signing (some credential) → may credential
  signed : call.result? = some (.ok ()) →
    ∃ credential, may credential ∧ call.message = Scheme.signed credential message

/-- A call serves its message all along, if it may use what the provider answers and what it finds
kept and usable. -/
theorem SignCall.serves_step {now : Moment} {cache : CredentialCache} {call : SignCall}
    (serves : call.Serves provider message may)
    (answered : ∀ number credential, provider.answer number = .ok (some credential) →
      may credential)
    (kept : ∀ credential, cache.kept = some credential → credential.isValid now = true →
      may credential) :
    (call.step now cache).2.Serves provider message may := by
  have signer := serves.signer
  have same := serves.untouched
  have moves := call.moves_step now cache
  generalize call.step now cache = next at moves ⊢
  cases moves with
  | finds stage usable =>
    refine ⟨signer, fun _ => same (by rw [result?, stage]), by simp, ?_, by simp [result?]⟩
    intro credential found
    have full : cache.kept = some credential := Stage.signing.inj found
    rw [full] at usable
    exact kept credential full usable
  | asks stage unusable =>
    exact ⟨signer, fun _ => same (by rw [result?, stage]), by simp, by simp, by simp [result?]⟩
  | refused number reason stage fails =>
    exact ⟨signer, fun _ => same (by rw [result?, stage]), by simp, by simp, by simp [result?]⟩
  | hears number given stage answers =>
    refine ⟨signer, fun _ => same (by rw [result?, stage]), ?_, by simp, by simp [result?]⟩
    intro credential found
    rw [signer, Stage.storing.inj found] at answers
    exact answered number credential answers
  | keeps given stage =>
    refine ⟨signer, fun _ => same (by rw [result?, stage]), by simp, ?_, by simp [result?]⟩
    intro credential found
    exact serves.storing credential (Stage.signing.inj found ▸ stage)
  | signs given stage =>
    have form : call.message = message := same (by rw [result?, stage])
    cases given with
    | none =>
      exact ⟨signer, fun _ => form, by simp [signWith], by simp [signWith],
        by simp [signWith, result?]⟩
    | some credential =>
      have may := serves.signing credential stage
      refine ⟨signer, by simp [signWith, result?], by simp [signWith], by simp [signWith],
        fun _ => ⟨credential, may, ?_⟩⟩
      simp only [signWith, signer, Scheme.headerSignature, form]
  | rests result stage => exact serves

/-! ### A flight -/

/-- A flight that sends nothing but the signed form of a message. -/
structure Flight.Carries {α : Type} (provider : Provider) (message : RequestMessage)
    (may : Credential → Prop) (flight : Flight α) : Prop where
  signing : ∀ call, flight.stage = .signing call → call.Serves provider message may
  sending : ∀ signed, flight.stage = .sending signed →
    ∃ credential, may credential ∧ signed = Scheme.signed credential message
  sent : ∀ request ∈ flight.sent,
    ∃ credential, may credential ∧ (Scheme.signed credential message).toHttp = .ok request

namespace Flight

variable {α : Type} {flight : Flight α}

theorem carries_finish (carries : flight.Carries provider message may) (result : Attempt α) :
    (flight.finish result).Carries provider message may :=
  ⟨by simp [finish], by simp [finish], carries.sent⟩

/-- What is handed over is what the message becomes. -/
theorem request_eq_ok {signed : RequestMessage} {request : HttpRequest}
    (handed : flight.request signed = .ok request) : signed.toHttp = .ok request := by
  obtain ⟨travelling, travels, handed⟩ := bind_eq_ok.mp handed
  obtain ⟨_, _, handed⟩ := bind_eq_ok.mp handed
  cases handed
  exact mapError_eq_ok.mp travels

theorem carries_send (carries : flight.Carries provider message may) {signed : RequestMessage}
    (form : ∃ credential, may credential ∧ signed = Scheme.signed credential message) :
    (flight.send signed).Carries provider message may := by
  unfold send
  split
  · exact carries_finish carries _
  · rename_i request handed
    refine ⟨by simp, by simp, ?_⟩
    intro sent member
    rcases List.mem_append.mp member with before | last
    · exact carries.sent sent before
    · obtain ⟨credential, allowed, rfl⟩ := form
      rw [List.mem_singleton.mp last]
      exact ⟨credential, allowed, request_eq_ok handed⟩

theorem carries_afterSigning (carries : flight.Carries provider message may) {call : SignCall}
    (serves : call.Serves provider message may) :
    (flight.afterSigning call).Carries provider message may := by
  unfold afterSigning
  split
  · refine ⟨fun other same => ?_, by simp, carries.sent⟩
    rw [Stage.signing.injEq] at same
    exact same ▸ serves
  · rename_i done
    refine ⟨by simp, ?_, carries.sent⟩
    intro signed same
    rw [Stage.sending.injEq] at same
    exact same ▸ serves.signed done
  · exact carries_finish carries _

theorem carries_step {now : Moment} {cache : CredentialCache}
    (carries : flight.Carries provider message may)
    (answered : ∀ number credential, provider.answer number = .ok (some credential) →
      may credential)
    (kept : ∀ credential, cache.kept = some credential → credential.isValid now = true →
      may credential) :
    (flight.step now cache).2.Carries provider message may := by
  cases stage : flight.stage with
  | signing call =>
    simp only [step, stage]
    exact carries_afterSigning carries
      (SignCall.serves_step (carries.signing call stage) answered kept)
  | sending signed =>
    simp only [step, stage]
    exact carries_send carries (carries.sending signed stage)
  | waiting => simpa only [step, stage] using carries
  | ended outcome => simpa only [step, stage] using carries

theorem carries_land (carries : flight.Carries provider message may) (answer : Attempt Response) :
    (flight.land answer).Carries provider message may := by
  unfold land
  split
  · exact carries_finish carries _
  · exact carries

theorem carries_abort (carries : flight.Carries provider message may) :
    flight.abort.Carries provider message may := by
  unfold abort
  split
  · exact carries
  · exact ⟨by simp, by simp, carries.sent⟩

/-- A credential that a flight may come by: the provider answers with it, or one of the flight's
steps finds it kept while it may be used. -/
def MayUse (provider : Provider) (events : List Event) (credential : Credential) : Prop :=
  (∃ number, provider.answer number = .ok (some credential)) ∨
    ∃ now cache, Event.advance now cache ∈ events ∧ cache.kept = some credential ∧
      credential.isValid now = true

/-- Whatever happens, a flight sends nothing but the signed form of its message. -/
theorem carries_run {events : List Event}
    (carries : flight.Carries provider message (MayUse provider events)) :
    (flight.run events).Carries provider message (MayUse provider events) := by
  have along : ∀ rest, (∀ event ∈ rest, event ∈ events) → ∀ flight : Flight α,
      flight.Carries provider message (MayUse provider events) →
        (flight.run rest).Carries provider message (MayUse provider events) := by
    intro rest
    induction rest with
    | nil => exact fun _ _ carries => carries
    | cons event rest ih =>
      intro inside flight carries
      refine ih (fun later member => inside later (List.mem_cons_of_mem _ member)) _ ?_
      have here := inside event List.mem_cons_self
      cases event with
      | advance now cache =>
        exact carries_step carries (fun number credential answer => .inl ⟨number, answer⟩)
          fun credential found valid => .inr ⟨now, cache, here, found, valid⟩
      | land answer => exact carries_land carries answer
      | abort => exact carries_abort carries
  exact along events (fun _ member => member) flight carries

end Flight

namespace Action

variable {ρ γ α : Type} {action : Action ρ γ α}

/-- A flight of a client that signs sets out with the action's message, and carries it. -/
theorem carries_takeOff {now : Moment} {insideRuntime : Bool} {custom : List (String × String)}
    {request : ρ} {flight : Flight α}
    (signer : action.client.signer = some ⟨provider, .headerSignature⟩)
    (takesOff : action.takeOff now insideRuntime custom request = .ok flight) :
    ∃ message, action.message now custom request = .ok message ∧
      flight.Carries provider message may := by
  obtain ⟨message, _, prepares, _, rfl⟩ := takeOff_eq_ok.mp takesOff
  refine ⟨message, message_of_prepare prepares, fun call stage => ?_, fun signed stage => ?_,
    by simp⟩
  · simp only [firstStage, signer, Flight.Stage.signing.injEq] at stage
    subst stage
    exact ⟨rfl, fun _ => rfl, by simp [Signer.call], by simp [Signer.call],
      by simp [Signer.call, SignCall.result?]⟩
  · simp [firstStage, signer] at stage

end Action

end SignedQueue

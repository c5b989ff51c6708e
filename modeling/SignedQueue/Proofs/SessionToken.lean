import Mathlib
import SignedQueue.Proofs.Departure
import SignedQueue.Proofs.SignatureCoverage
/-!
**The session token of a signed message.** Signing puts the token of the credential into the
message, in place of one that is there. Under a credential without a token it leaves the header
alone, and then what the operation, the caller or an earlier signature put there stays.

* `Scheme.header?_token_signed`: the header of the session token after signing;
* `Scheme.carriesToken_sign_iff`: when a signed message carries the token of its credential and no
  other one;
* `Scheme.foreign_token_kept`: a token of the caller's that stays;
* `Action.token_of_sent`: whose token a request carries that has been sent.
-/

namespace SignedQueue

namespace Scheme

variable {credential : Credential} {message : RequestMessage}

/-- A message has the header of the session token exactly if the credential has a token that is not
empty, and then its value is this token. -/
structure CarriesToken (credential : Credential) (message : RequestMessage) : Prop where
  present :
    (message.header? tokenHeader).isSome ↔
      ∃ token, credential.securityToken = some token ∧ token ≠ ""
  own : ∀ value, message.header? tokenHeader = some value → credential.securityToken = some value

theorem sessionToken_eq_some {token : String} :
    credential.sessionToken = some token ↔ credential.securityToken = some token ∧ token ≠ "" := by
  simp [Credential.sessionToken, Option.filter_eq_some_iff]

theorem carriesToken_iff :
    CarriesToken credential message ↔ message.header? tokenHeader = credential.sessionToken := by
  constructor
  · intro carries
    cases held : message.header? tokenHeader with
    | none =>
      refine (Option.eq_none_iff_forall_ne_some.mpr ?_).symm
      intro token session
      have present := carries.present.mpr ⟨token, sessionToken_eq_some.mp session⟩
      rw [held] at present
      cases present
    | some value =>
      obtain ⟨token, secured, filled⟩ := carries.present.mp (by rw [held]; rfl)
      obtain rfl : token = value := Option.some.inj (secured.symm.trans (carries.own value held))
      exact (sessionToken_eq_some.mpr ⟨secured, filled⟩).symm
  · intro same
    refine ⟨?_, ?_⟩
    · rw [same, Option.isSome_iff_exists]
      exact exists_congr fun token => sessionToken_eq_some
    · intro value held
      exact (sessionToken_eq_some.mp (same ▸ held)).1

/-- After signing, the header of the session token holds the credential's, or else what it held
before. -/
theorem header?_token_signed (credential : Credential) (message : RequestMessage) :
    (signed credential message).header? tokenHeader =
      credential.sessionToken.or (message.header? tokenHeader) := by
  have apart : Ascii.lower authorizationHeader ≠ Ascii.lower tokenHeader := by decide +kernel
  unfold signed setToken
  rw [RequestMessage.header?, RequestMessage.setHeader, HeaderFields.get?_set, if_neg apart]
  cases credential.sessionToken with
  | none => rfl
  | some token => exact (HeaderFields.get?_set _ _ _ _).trans (if_pos rfl)

/-- Signing always succeeds. A signed message carries the token of its credential and no other one,
exactly if the credential has a token or no one has put one into the message before. -/
theorem carriesToken_sign_iff (credential : Credential) (message : RequestMessage) :
    (headerSignature.sign credential message).result = .ok () ∧
      (CarriesToken credential (headerSignature.sign credential message).message ↔
        credential.sessionToken.isSome ∨ message.header? tokenHeader = none) := by
  refine ⟨rfl, carriesToken_iff.trans ?_⟩
  have after : (headerSignature.sign credential message).message.header? tokenHeader =
      credential.sessionToken.or (message.header? tokenHeader) :=
    header?_token_signed credential message
  rw [after]
  cases credential.sessionToken <;> simp

/-- A token that the caller has put into a message stays when the message is signed under a
credential without a token, and so does the token of a credential that signed the message before. -/
theorem foreign_token_kept :
    let message : RequestMessage :=
      { method := .get
        resourcePath := "/queues"
        headers := .ofList [("Security-Token", "foreign")] }
    let plain : Credential := ⟨"AK", "SK", none, none⟩
    let lent : Credential := ⟨"STS", "SK", some "lent", none⟩
    ¬ CarriesToken plain (headerSignature.sign plain message).message ∧
      (headerSignature.sign plain message).message.header? tokenHeader = some "foreign" ∧
        (signed plain (signed lent message)).header? tokenHeader = some "lent" := by
  intro message plain lent
  have before : message.header? tokenHeader = some "foreign" := by decide +kernel
  have after : (headerSignature.sign plain message).message.header? tokenHeader = some "foreign" :=
    (header?_token_signed plain message).trans before
  refine ⟨?_, after, ?_⟩
  · intro carries
    cases carries.own _ after
  · rw [header?_token_signed, header?_token_signed]
    rfl

end Scheme

/-- Whatever happens to a flight of a client that signs, a request that it has sent carries the
token of the credential that signed it, or else the one of the caller, or else the one of the
operation. -/
theorem Action.token_of_sent {ρ γ α : Type} {action : Action ρ γ α} {provider : Provider}
    {now : Moment} {insideRuntime : Bool} {custom : List (String × String)} {request : ρ}
    {noted : γ} {built : RequestMessage} {flight : Flight α} {events : List Flight.Event}
    {sent : HttpRequest}
    (signer : action.client.signer = some ⟨provider, .headerSignature⟩)
    (builds : action.operation.build request = .ok (built, noted))
    (takesOff : action.takeOff now insideRuntime custom request = .ok flight)
    (handedOver : sent ∈ (flight.run events).sent) :
    ∃ credential, Flight.MayUse provider events credential ∧
      sent.header? Scheme.tokenHeader =
        credential.sessionToken.or
          (((custom.reverse.find? fun entry =>
              Ascii.sameIgnoringCase entry.1 Scheme.tokenHeader).map (·.2)).or
            (built.header? Scheme.tokenHeader)) := by
  obtain ⟨message, made, carries⟩ := carries_takeOff signer takesOff
  obtain ⟨credential, allowed, travels⟩ := (Flight.carries_run carries).sent sent handedOver
  refine ⟨credential, allowed, ?_⟩
  have received := RequestMessage.header?_toHttp travels Scheme.tokenHeader
  have notNeeded : action.needed? Scheme.tokenHeader = none :=
    needed?_eq_none.mpr ⟨fun _ _ => by decide +kernel, by decide +kernel⟩
  have noDefault : default? now Scheme.tokenHeader = none :=
    default?_eq_none.mpr (by decide +kernel)
  rw [Scheme.header?_token_signed, get?_message builds made, notNeeded, noDefault, Option.none_or,
    Option.or_none] at received
  exact received

end SignedQueue

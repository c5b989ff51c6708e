import Mathlib
import SignedQueue.Proofs.FixedCredential
import SignedQueue.Proofs.CustomHeaders
/-!
**Logs show no more of a secret than its redacted form.** Two fixed credentials of which the same is
shown cannot be told apart by what is logged, whatever is signed with them: the text that is signed
does not depend on the credential, and neither do the instants at which the provider is asked.

* `Redacted.redact_eq_iff`: when the same is shown of two secrets;
* `Credential.LooksLike`: two credentials of which the same is shown;
* `SignSession`: messages that are signed one after another, some of them again, and what is logged;
* `SignSession.Alike.run`: sessions that look alike keep looking alike;
* `SignSession.log_eq_of_looksLike`: they log the same.
-/

namespace SignedQueue

/-! ### What is shown of a secret -/

namespace Redacted

theorem redact_short {secret : String} (filled : secret ≠ "") (short : secret.toList.length < 12) :
    redact (some secret) = "***" := by
  have characters : secret.toList ≠ [] := by simpa using filled
  simp [redact, characters, show secret.toList.length < shortest from short]

theorem toList_redact_long {secret : String} (long : 12 ≤ secret.toList.length) :
    (redact (some secret)).toList =
      secret.toList.take 3 ++ "***".toList ++ secret.toList.rtake 3 := by
  have characters : secret.toList ≠ [] := by
    rintro empty
    rw [empty] at long
    cases long
  have shows : ¬ secret.toList.length < shortest := by simpa [shortest] using long
  simp [redact, characters, shows, shown, List.rtake]

theorem length_redact_long {secret : String} (long : 12 ≤ secret.toList.length) :
    (redact (some secret)).toList.length = 9 := by
  have tail : (secret.toList.rtake 3).length = 3 := by
    rw [List.rtake, List.length_drop]
    omega
  have marks : "***".toList.length = 3 := rfl
  rw [toList_redact_long long, List.length_append, List.length_append, tail, marks,
    List.length_take]
  omega

/-- Whether a secret is empty can be told from what is shown of it. -/
theorem eq_empty_iff_of_redact_eq {first second : String}
    (same : redact (some first) = redact (some second)) : first = "" ↔ second = "" := by
  have told {secret : String} : redact (some secret) = "EMPTY" ↔ secret = "" := by
    constructor
    · intro shown
      by_contra filled
      by_cases short : secret.toList.length < 12
      · rw [redact_short filled short] at shown
        exact absurd shown (by decide)
      · have nine := length_redact_long (Nat.not_lt.mp short)
        rw [shown] at nine
        exact absurd nine (by decide)
    · rintro rfl
      rfl
  rw [← told, ← told, same]

/-- What is shown of two secrets is the same exactly if both are short, or if both are long and have
the same three characters at each end. -/
theorem redact_eq_iff {first second : String} (filled : first ≠ "") (filled' : second ≠ "") :
    redact (some first) = redact (some second) ↔
      first.toList.length < 12 ∧ second.toList.length < 12 ∨
        12 ≤ first.toList.length ∧ 12 ≤ second.toList.length ∧
          first.toList.take 3 = second.toList.take 3 ∧
            first.toList.rtake 3 = second.toList.rtake 3 := by
  have nine {secret other : String} (long : 12 ≤ secret.toList.length) (filled : other ≠ "")
      (short : other.toList.length < 12) : redact (some secret) ≠ redact (some other) := by
    intro same
    have lengths := length_redact_long long
    rw [same, redact_short filled short] at lengths
    exact absurd lengths (by decide)
  rcases lt_or_ge first.toList.length 12 with short | long <;>
    rcases lt_or_ge second.toList.length 12 with short' | long'
  · exact iff_of_true (by rw [redact_short filled short, redact_short filled' short'])
      (.inl ⟨short, short'⟩)
  · exact iff_of_false (nine long' filled short).symm (by omega)
  · exact iff_of_false (nine long filled' short') (by omega)
  · rw [or_iff_right (by omega), and_iff_right long, and_iff_right long', ← String.toList_inj,
      toList_redact_long long, toList_redact_long long']
    constructor
    · intro same
      have heads : (first.toList.take 3).length = (second.toList.take 3).length := by
        simp only [List.length_take]
        omega
      obtain ⟨front, tail⟩ := List.append_inj same (by simpa using heads)
      exact ⟨(List.append_inj front heads).1, tail⟩
    · rintro ⟨head, tail⟩
      rw [head, tail]

end Redacted

/-! ### Credentials that look alike -/

/-- Two credentials of which the same is shown. -/
structure Credential.LooksLike (first second : Credential) : Prop where
  id : Redacted.redact (some first.accessKeyId) = Redacted.redact (some second.accessKeyId)
  secret :
    Redacted.redact (some first.accessKeySecret) = Redacted.redact (some second.accessKeySecret)
  token : Redacted.redact first.securityToken = Redacted.redact second.securityToken
  expiry : first.expiresAt = second.expiresAt

namespace Credential.LooksLike

variable {first second : Credential} (alike : first.LooksLike second)

include alike

theorem describe_eq : first.describe = second.describe := by
  unfold describe
  rw [alike.id, alike.secret, alike.token, alike.expiry]

theorem shown_eq : (Provider.fixed first).shown = (Provider.fixed second).shown := by
  unfold Provider.fixed
  rw [alike.describe_eq]

theorem describe_signer_eq :
    (Client.fixedSigner first).describe = (Client.fixedSigner second).describe := by
  unfold Signer.describe Client.fixedSigner
  rw [alike.shown_eq]

theorem askLine_eq :
    (Client.fixedSigner first).askLine = (Client.fixedSigner second).askLine := by
  unfold Signer.askLine Client.fixedSigner
  rw [alike.shown_eq]

/-- Both may be used at the same instants. -/
theorem isValid_eq (now : Moment) : first.isValid now = second.isValid now := by
  simp only [isValid, alike.expiry, ne_eq, Redacted.eq_empty_iff_of_redact_eq alike.id,
    Redacted.eq_empty_iff_of_redact_eq alike.secret]

end Credential.LooksLike

/-! ### Messages that look alike -/

namespace Canonical.SameCovered

variable {first second third : RequestMessage}

theorem refl (message : RequestMessage) : SameCovered message message :=
  ⟨rfl, fun _ _ => rfl, fun _ _ => rfl, rfl⟩

theorem trans (covered : SameCovered first second) (covered' : SameCovered second third) :
    SameCovered first third where
  method := covered.method.trans covered'.method
  values name member := (covered.values name member).trans (covered'.values name member)
  service name service := (covered.service name service).trans (covered'.service name service)
  resource := covered.resource.trans covered'.resource

/-- Two messages that agree in what a signature covers still do with the same header set in both. -/
theorem setHeader (covered : SameCovered first second) (name value : String) :
    SameCovered (first.setHeader name value) (second.setHeader name value) where
  method := covered.method
  resource := covered.resource
  values covers member := by
    simp only [RequestMessage.header?, RequestMessage.setHeader, HeaderFields.get?_set]
    split
    · rfl
    · exact covered.values covers member
  service covers service := by
    simp only [RequestMessage.header?, RequestMessage.setHeader, HeaderFields.get?_set]
    split
    · rfl
    · exact covered.service covers service

/-- Signing changes nothing of what a signature covers. -/
theorem of_signed (credential : Credential) (message : RequestMessage) :
    SameCovered (Scheme.signed credential message) message where
  method := (Scheme.form_frame (some credential) message).1
  resource := Scheme.resource_signed credential message
  values name member := by
    have untouched : (Scheme.form (some credential) message).header? name = message.header? name :=
      Scheme.header?_form_of_not_sets (Scheme.not_sets_of_covered (.inl member))
    exact congrArg (Option.getD · "") untouched
  service name service := by
    have untouched : (Scheme.form (some credential) message).header? name = message.header? name :=
      Scheme.header?_form_of_not_sets (Scheme.not_sets_of_covered (.inr service))
    exact untouched

theorem signed (covered : SameCovered first second) (credential other : Credential) :
    SameCovered (Scheme.signed credential first) (Scheme.signed other second) :=
  (of_signed credential first).trans (covered.trans (of_signed other second).symm)

end Canonical.SameCovered

/-! ### Signing one message after another -/

/-- Messages that one signer signs one after another, what it keeps, and what it has logged. -/
structure SignSession where
  messages : List RequestMessage
  cache : CredentialCache := {}
  log : List LogLine := []

namespace SignSession

/-- What happens to one of the messages. -/
inductive Event where
  /-- It is signed at an instant, possibly not for the first time. -/
  | sign (now : Moment) (place : Nat)
  /-- A header of it is set. -/
  | set (place : Nat) (name value : String)

/-- The session after an event. An event of no message changes nothing. -/
def step (signer : Signer) (session : SignSession) : Event → SignSession
  | .sign now place =>
    match session.messages[place]? with
    | none => session
    | some message =>
      let call := signer.sign now session.cache message
      { messages := session.messages.set place call.2.message
        cache := call.1
        log := session.log ++ call.2.log }
  | .set place name value =>
    match session.messages[place]? with
    | none => session
    | some message =>
      { session with messages := session.messages.set place (message.setHeader name value) }

/-- The session after some events. -/
def run (signer : Signer) (session : SignSession) (events : List Event) : SignSession :=
  events.foldl (step signer) session

/-- Two sessions that cannot be told apart by what is logged, each with a credential of its own. -/
structure Alike (first second : Credential) (one other : SignSession) : Prop where
  log : one.log = other.log
  asked : one.cache.asked = other.cache.asked
  kept : one.cache.kept = none ∧ other.cache.kept = none ∨
    one.cache.kept = some first ∧ other.cache.kept = some second
  messages : List.Forall₂ Canonical.SameCovered one.messages other.messages

variable {first second : Credential} {one other : SignSession}

namespace Alike

theorem holds (alike : Alike first second one other) :
    one.cache.Holds first ∧ other.cache.Holds second := by
  rcases alike.kept with ⟨empty, empty'⟩ | ⟨full, full'⟩
  · refine ⟨fun kept found => ?_, fun kept found => ?_⟩
    · cases empty.symm.trans found
    · cases empty'.symm.trans found
  · exact ⟨fun kept found => (Option.some.inj (full.symm.trans found)).symm,
      fun kept found => (Option.some.inj (full'.symm.trans found)).symm⟩

/-- Both keep a credential that may be used, or neither does. -/
theorem isUsable_eq (alike : Alike first second one other) (looks : first.LooksLike second)
    (now : Moment) :
    Credential.isUsable one.cache.kept now = Credential.isUsable other.cache.kept now := by
  rcases alike.kept with ⟨empty, empty'⟩ | ⟨full, full'⟩
  · rw [empty, empty']
  · rw [full, full']
    exact looks.isValid_eq now

/-- An event of the messages at one place keeps sessions alike. -/
theorem step (alike : Alike first second one other) (looks : first.LooksLike second)
    (event : Event) :
    Alike first second (one.step (Client.fixedSigner first) event)
      (other.step (Client.fixedSigner second) event) := by
  cases event with
  | sign now place =>
    simp only [SignSession.step]
    rcases forall₂_place alike.messages place with
      ⟨absent, absent'⟩ | ⟨message, message', found, found', covered, put⟩
    · rw [absent, absent']
      exact alike
    · rw [found, found']
      obtain ⟨holds, holds'⟩ := alike.holds
      obtain ⟨cache, form, log⟩ := Signer.sign_fixed holds now message
      obtain ⟨cache', form', log'⟩ := Signer.sign_fixed holds' now message'
      have line : Scheme.signLine message = Scheme.signLine message' := by
        unfold Scheme.signLine
        rw [covered.stringToSign_eq]
      simp only [cache, cache', form, form', log, log', alike.isUsable_eq looks now]
      constructor
      · rw [alike.log, line, looks.askLine_eq]
      · split
        · exact alike.asked
        · exact congrArg (· + 1) alike.asked
      · split
        · exact alike.kept
        · exact .inr ⟨rfl, rfl⟩
      · exact put _ _ (covered.signed first second)
  | set place name value =>
    simp only [SignSession.step]
    rcases forall₂_place alike.messages place with
      ⟨absent, absent'⟩ | ⟨message, message', found, found', covered, put⟩
    · rw [absent, absent']
      exact alike
    · rw [found, found']
      exact ⟨alike.log, alike.asked, alike.kept, put _ _ (covered.setHeader name value)⟩

/-- Sessions that look alike keep looking alike. -/
theorem run (alike : Alike first second one other) (looks : first.LooksLike second)
    (events : List Event) :
    Alike first second (one.run (Client.fixedSigner first) events)
      (other.run (Client.fixedSigner second) events) := by
  induction events generalizing one other with
  | nil => exact alike
  | cons event rest ih => exact ih (alike.step looks event)

end Alike

/-- **What is logged of a fixed credential is fixed by its redacted form.** With two credentials of
which the same is shown, the same lines are logged whatever is signed, and the credential, its
provider and its signer show the same. Of two secrets that are not empty the same is shown exactly
if both are short, or if both are long and have the same three characters at each end. -/
theorem log_eq_of_looksLike :
    (∀ first second : Credential, first.LooksLike second →
      (∀ messages events,
        (run (Client.fixedSigner first) { messages } events).log =
          (run (Client.fixedSigner second) { messages } events).log) ∧
        first.describe = second.describe ∧
          (Provider.fixed first).shown = (Provider.fixed second).shown ∧
            (Client.fixedSigner first).describe = (Client.fixedSigner second).describe) ∧
      ∀ one other : String, one ≠ "" → other ≠ "" →
        (Redacted.redact (some one) = Redacted.redact (some other) ↔
          one.toList.length < 12 ∧ other.toList.length < 12 ∨
            12 ≤ one.toList.length ∧ 12 ≤ other.toList.length ∧
              one.toList.take 3 = other.toList.take 3 ∧
                one.toList.rtake 3 = other.toList.rtake 3) := by
  refine ⟨fun first second looks => ⟨fun messages events => ?_, looks.describe_eq, looks.shown_eq,
    looks.describe_signer_eq⟩, fun _ _ => Redacted.redact_eq_iff⟩
  have same : List.Forall₂ Canonical.SameCovered messages messages :=
    List.forall₂_same.mpr fun message _ => .refl message
  have alike : Alike first second { messages } { messages } := ⟨rfl, rfl, .inl ⟨rfl, rfl⟩, same⟩
  exact (alike.run looks events).log

/-- Two credentials with other middles, and a message that is signed twice with each. -/
theorem log_eq_of_looksLike_middles :
    Credential.LooksLike ⟨"LTAI5tAccessKey", "secret", none, none⟩
        ⟨"LTAanother-one-Key", "other", none, none⟩ ∧
      (run (Client.fixedSigner ⟨"LTAI5tAccessKey", "secret", none, none⟩)
          { messages := [{ method := .get, resourcePath := "/queues" }] }
          [.sign 0 0, .sign 1 0]).log =
        (run (Client.fixedSigner ⟨"LTAanother-one-Key", "other", none, none⟩)
          { messages := [{ method := .get, resourcePath := "/queues" }] }
          [.sign 0 0, .sign 1 0]).log ∧
        "ключ-секрет".toList.length < 12 ∧
          Redacted.redact (some "ключ-секрет") = Redacted.redact (some "SK") := by
  have looks : Credential.LooksLike ⟨"LTAI5tAccessKey", "secret", none, none⟩
      ⟨"LTAanother-one-Key", "other", none, none⟩ := by
    constructor <;> decide +kernel
  have short : "ключ-секрет".toList.length < 12 := by decide
  exact ⟨looks, (log_eq_of_looksLike.1 _ _ looks).1 _ _, short,
    (log_eq_of_looksLike.2 _ _ (by decide) (by decide)).mpr (.inl ⟨short, by decide⟩)⟩

end SignSession

end SignedQueue

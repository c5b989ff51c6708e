import Mathlib
import SignedQueue.Proofs.SessionToken
import SignedQueue.Proofs.SigningSteps
/-!
**The credential in use is the last one that the provider returned.** Calls made one after another
through the clones of a signer share what is kept. What a call finds there, whether it asks the
provider and under which credential it signs are all told by the answers that the provider has given
so far.

* `Credential.Valid`, `Credential.Usable`: when a credential may be used;
* `Provider.lastReturned`: the credential that the provider returned last, if any;
* `Signer.Use.Abides`, `Signer.Use.SignedUnderLast`: what a call does, in terms of it;
* `Signer.kept_cacheAfter`: what is kept after calls of any number and kind;
* `Signer.abides_run`: every call of a run does so, and one that finds a credential which may be
  used signs under it without asking.
-/

namespace SignedQueue

/-! ### Credentials that may be used -/

namespace Credential

variable {credential : Credential} {now : Moment}

/-- A credential may be used at an instant: both halves of the pair of keys are there, and it does
not expire within two minutes. -/
structure Valid (credential : Credential) (now : Moment) : Prop where
  id : credential.accessKeyId ≠ ""
  secret : credential.accessKeySecret ≠ ""
  unexpired : ∀ expiry, credential.expiresAt = some expiry → now.later 120 < expiry

theorem isValid_iff : credential.isValid now = true ↔ credential.Valid now := by
  have unexpired :
      (credential.expiresAt.all fun expiry => now.later expiryMargin < expiry) = true ↔
        ∀ expiry, credential.expiresAt = some expiry → now.later 120 < expiry := by
    cases credential.expiresAt with
    | none => simp
    | some expiry =>
      rw [Option.all_some, decide_eq_true_eq]
      simp [expiryMargin]
  rw [isValid, Bool.and_eq_true, Bool.and_eq_true, unexpired, decide_eq_true_eq, decide_eq_true_eq]
  exact ⟨fun ⟨⟨id, secret⟩, unexpired⟩ => ⟨id, secret, unexpired⟩,
    fun valid => ⟨⟨valid.id, valid.secret⟩, valid.unexpired⟩⟩

/-- A credential is there and may be used at an instant. -/
def Usable (given : Option Credential) (now : Moment) : Prop :=
  ∃ credential, given = some credential ∧ credential.Valid now

theorem isUsable_iff {given : Option Credential} :
    isUsable given now = true ↔ Usable given now := by
  cases given with
  | none => simp [isUsable, Usable]
  | some credential => simp [isUsable, Usable, isValid_iff]

/-- A credential that may be used could be used before. -/
theorem Valid.earlier (valid : credential.Valid now) {before : Moment} (le : before ≤ now) :
    credential.Valid before where
  id := valid.id
  secret := valid.secret
  unexpired expiry expires :=
    Moment.lt_of_le_of_lt (Moment.later_le_later le 120) (valid.unexpired expiry expires)

end Credential

/-! ### What the provider has returned -/

namespace Provider

/-- The credential that a provider returned last, if any, when it has been asked some number of
times. A question that it failed to answer leaves the one before. -/
def lastReturned (provider : Provider) : Nat → Option Credential
  | 0 => none
  | asked + 1 =>
    match provider.answer asked with
    | .ok given => given
    | .error _ => provider.lastReturned asked

/-- Whether the credential that a provider returned last is there and may be used at an instant. -/
def Serves (provider : Provider) (asked : Nat) (now : Moment) : Prop :=
  Credential.Usable (provider.lastReturned asked) now

variable {provider : Provider} {asked : Nat}

theorem lastReturned_succ_of_ok {given : Option Credential}
    (answers : provider.answer asked = .ok given) : provider.lastReturned (asked + 1) = given := by
  rw [lastReturned, answers]

theorem lastReturned_succ_of_error {reason : Interruption}
    (fails : provider.answer asked = .error reason) :
    provider.lastReturned (asked + 1) = provider.lastReturned asked := by
  rw [lastReturned, fails]

end Provider

/-! ### Calls one after another -/

namespace Signer

/-- The clones of a signer, and what becomes of them with other schemes. -/
inductive Variant (signer : Signer) : Signer → Prop
  | clone : Variant signer signer
  | withScheme {variant : Signer} (of : Variant signer variant) (scheme : Scheme) :
      Variant signer (variant.withScheme scheme)

theorem Variant.provider_eq {signer variant : Signer} (of : signer.Variant variant) :
    variant.provider = signer.provider := by
  induction of with
  | clone => rfl
  | withScheme _ _ ih => exact ih

/-- A message that is to be signed through a clone of a signer. -/
structure Request (signer : Signer) where
  through : Signer
  variant : signer.Variant through
  message : RequestMessage

/-- A call that signs a message at an instant, with nothing between its steps. -/
structure Use (signer : Signer) extends Request signer where
  now : Moment

variable {signer : Signer}

/-- What a call leaves kept, and what becomes of it. -/
def Use.run (use : signer.Use) (cache : CredentialCache) : CredentialCache × SignCall :=
  use.through.sign use.now cache use.message

/-- What the clones of a signer share after some calls, one after another. -/
def cacheAfter (signer : Signer) (uses : List signer.Use) : CredentialCache :=
  uses.foldl (fun cache use => (use.run cache).1) {}

theorem cacheAfter_concat (uses : List signer.Use) (use : signer.Use) :
    signer.cacheAfter (uses ++ [use]) = (use.run (signer.cacheAfter uses)).1 := by
  rw [cacheAfter, List.foldl_append, List.foldl_cons, List.foldl_nil, cacheAfter]

/-! ### What a call does -/

/-- What becomes of a message that is signed under a credential, if there is one. -/
structure Use.Signs (use : signer.Use) (given : Option Credential) (call : SignCall) : Prop where
  without :
    given = none →
      call.message = use.message ∧ call.result? = some (.error (.failed noCredential))
  under :
    ∀ credential, given = some credential →
      call.message = (use.through.scheme.sign credential use.message).message ∧
        call.result? = some ((use.through.scheme.sign credential use.message).result.mapError
          (reword unsigned))

/-- What a call does to what it finds kept, told by what the provider has returned. -/
structure Use.Abides (use : signer.Use) (before after : CredentialCache) (call : SignCall) :
    Prop where
  /-- The provider is asked exactly if the credential that it returned last may not be used. -/
  asks :
    ¬ signer.provider.Serves before.asked use.now ∧ after.asked = before.asked + 1 ∨
      signer.provider.Serves before.asked use.now ∧ after.asked = before.asked
  keeps : after.kept = signer.provider.lastReturned after.asked
  /-- A provider that has none empties what is kept. -/
  emptied :
    after.asked = before.asked + 1 → signer.provider.answer before.asked = .ok none →
      after.kept = none
  /-- A provider that fails leaves it as it was, and nothing is signed. -/
  failing :
    ∀ reason, after.asked = before.asked + 1 → signer.provider.answer before.asked = .error reason →
      after.kept = before.kept ∧ call.message = use.message ∧
        call.result? = some (.error (reword unresolved reason))
  /-- In every other case the call signs under what is kept. -/
  signs :
    (∀ reason, after.asked = before.asked + 1 →
        signer.provider.answer before.asked ≠ .error reason) →
      use.Signs after.kept call

/-- A signature that has been made is one under the credential that the provider returned last. With
the service's own scheme, key, secret and token are all of this credential. -/
def Use.SignedUnderLast (use : signer.Use) (after : CredentialCache) (call : SignCall) : Prop :=
  call.result? = some (.ok ()) → ∃ credential,
    signer.provider.lastReturned after.asked = some credential ∧
      call.message = (use.through.scheme.sign credential use.message).message ∧
        (use.through.scheme = .headerSignature →
          call.message.header? Scheme.authorizationHeader =
              some ("MNS " ++ credential.accessKeyId ++ ":" ++
                Scheme.signatureOf credential.accessKeySecret
                  (Canonical.stringToSign use.message)) ∧
            call.message.header? Scheme.tokenHeader =
              credential.sessionToken.or (use.message.header? Scheme.tokenHeader))

variable {use : signer.Use} {before after : CredentialCache} {call : SignCall}

theorem Use.signs_signWith (use : signer.Use) (log : List LogLine) (given : Option Credential) :
    use.Signs given ({ use.through.call use.message with log := log }.signWith given) := by
  constructor
  · rintro rfl
    exact ⟨rfl, rfl⟩
  · rintro credential rfl
    exact ⟨rfl, rfl⟩

/-- A call that finds kept what the provider returned last abides by it. -/
theorem Use.abides (use : signer.Use)
    (kept : before.kept = signer.provider.lastReturned before.asked) :
    use.Abides before (use.run before).1 (use.run before).2 := by
  have same := use.variant.provider_eq
  have serves : Credential.isUsable before.kept use.now = true ↔
      signer.provider.Serves before.asked use.now := by
    rw [kept]
    exact Credential.isUsable_iff
  by_cases usable : Credential.isUsable before.kept use.now = true
  · rw [Use.run, sign_of_usable usable]
    exact ⟨.inr ⟨serves.mp usable, rfl⟩, kept, fun more => absurd more (by simp),
      fun _ more => absurd more (by simp), fun _ => use.signs_signWith [] before.kept⟩
  · have asks : ¬ signer.provider.Serves before.asked use.now :=
      fun holds => usable (serves.mpr holds)
    cases answer : signer.provider.answer before.asked with
    | error reason =>
      rw [Use.run, sign_of_error usable (same ▸ answer)]
      refine ⟨.inl ⟨asks, rfl⟩, ?_, ?_, ?_, fun fine => absurd answer (fine reason rfl)⟩
      · rw [Provider.lastReturned_succ_of_error answer]
        exact kept
      · intro _ empty
        rw [answer] at empty
        cases empty
      · intro other _ fails
        obtain rfl : reason = other := Except.error.inj (answer.symm.trans fails)
        exact ⟨rfl, rfl, rfl⟩
    | ok given =>
      rw [Use.run, sign_of_answer usable (same ▸ answer)]
      refine ⟨.inl ⟨asks, rfl⟩, ?_, ?_, ?_, fun _ => use.signs_signWith _ given⟩
      · exact (Provider.lastReturned_succ_of_ok answer).symm
      · intro _ empty
        exact Except.ok.inj (answer.symm.trans empty)
      · intro other _ fails
        rw [answer] at fails
        cases fails

theorem Use.Abides.signedUnderLast (abides : use.Abides before after call) :
    use.SignedUnderLast after call := by
  intro made
  have signs : use.Signs after.kept call := by
    refine abides.signs fun reason more fails => ?_
    have refused := (abides.failing reason more fails).2.2
    rw [made] at refused
    cases refused
  cases given : after.kept with
  | none =>
    have refused := (signs.without given).2
    rw [made] at refused
    cases refused
  | some credential =>
    obtain ⟨message, _⟩ := signs.under credential given
    refine ⟨credential, abides.keeps ▸ given, message, fun scheme => ?_⟩
    have form : call.message = Scheme.signed credential use.message := by
      rw [message, scheme]
      rfl
    rw [form]
    exact ⟨Scheme.header?_signed credential use.message,
      Scheme.header?_token_signed credential use.message⟩

/-! ### Whole runs -/

/-- What is kept after calls of any number and kind is what the provider returned last. -/
theorem kept_cacheAfter (uses : List signer.Use) :
    (signer.cacheAfter uses).kept =
      signer.provider.lastReturned (signer.cacheAfter uses).asked := by
  induction uses using List.reverseRecOn with
  | nil => rfl
  | append_singleton earlier use ih =>
    rw [cacheAfter_concat]
    exact (use.abides ih).keeps

/-- As long as a credential that is kept may be used, calls change nothing of what is kept. -/
theorem cacheAfter_append (earlier between : List signer.Use) {credential : Credential}
    (kept : (signer.cacheAfter earlier).kept = some credential)
    (valid : ∀ use ∈ between, credential.Valid use.now) :
    signer.cacheAfter (earlier ++ between) = signer.cacheAfter earlier := by
  induction between using List.reverseRecOn with
  | nil => rw [List.append_nil]
  | append_singleton rest use ih =>
    have usable : Credential.isUsable (signer.cacheAfter earlier).kept use.now = true :=
      Credential.isUsable_iff.mpr ⟨credential, kept, valid use (by simp)⟩
    have unchanged := ih fun other member => valid other (by simp [member])
    rw [← List.append_assoc, cacheAfter_concat, unchanged, Use.run, sign_of_usable usable]

/-- In a run of calls through the clones of a signer, each call asks the provider exactly if the
credential that it returned last may not be used, keeps what it has returned last, and signs under
nothing else. Once a credential that may be used is kept, a call at a later instant at which it
still may be signs under it, and no call up to then asks or changes what is kept. -/
theorem abides_run (signer : Signer) :
    (∀ (earlier : List signer.Use) (use : signer.Use),
      use.Abides (signer.cacheAfter earlier) (use.run (signer.cacheAfter earlier)).1
          (use.run (signer.cacheAfter earlier)).2 ∧
        use.SignedUnderLast (use.run (signer.cacheAfter earlier)).1
          (use.run (signer.cacheAfter earlier)).2) ∧
      ∀ (earlier between : List signer.Use) (use : signer.Use) (credential : Credential),
        ((between ++ [use]).map Use.now).Pairwise (· ≤ ·) →
          (signer.cacheAfter earlier).kept = some credential → credential.Valid use.now →
            signer.cacheAfter (earlier ++ between ++ [use]) = signer.cacheAfter earlier ∧
              use.Signs (some credential) (use.run (signer.cacheAfter (earlier ++ between))).2 := by
  constructor
  · intro earlier use
    have abides := use.abides (signer.kept_cacheAfter earlier)
    exact ⟨abides, abides.signedUnderLast⟩
  · intro earlier between use credential inTime kept valid
    rw [List.pairwise_map, List.pairwise_append] at inTime
    have soon : ∀ other ∈ between ++ [use], credential.Valid other.now := by
      intro other member
      rcases List.mem_append.mp member with inside | last
      · exact valid.earlier (inTime.2.2 other inside use (by simp))
      · rw [List.mem_singleton.mp last]
        exact valid
    have usable : Credential.isUsable (signer.cacheAfter earlier).kept use.now = true :=
      Credential.isUsable_iff.mpr ⟨credential, kept, valid⟩
    refine ⟨?_, ?_⟩
    · rw [List.append_assoc]
      exact signer.cacheAfter_append earlier _ kept soon
    · rw [signer.cacheAfter_append earlier between kept fun other member =>
        soon other (List.mem_append_left _ member), Use.run, sign_of_usable usable, kept]
      exact use.signs_signWith [] (some credential)

/-- A provider that fails, then has none, then gives a credential that expires too soon, then one
that may be used for a while. -/
def moody : Signer where
  provider :=
    { shown := "Moody"
      answer := fun asked =>
        match asked with
        | 0 => .error (.brokeDown none)
        | 1 => .ok none
        | 2 => .ok (some ⟨"STS.one", "secret", some "token", some 140⟩)
        | _ => .ok (some ⟨"STS.two", "secret", some "token", some 1000⟩) }
  scheme := .headerSignature

/-- A call through the signer itself. -/
def moodyUse (now : Moment) : moody.Use :=
  ⟨⟨moody, .clone, { method := .get, resourcePath := "/queues" }⟩, now⟩

/-- Four calls ask, of which the last gets a credential that may be used; two later ones, the first
with a scheme that fails, use it up to the last nanosecond in which it may be. -/
theorem abides_run_moody :
    let earlier := [moodyUse 0, moodyUse 10, moodyUse 20, moodyUse 30]
    let failing : Scheme := ⟨"Failing", fun _ message => ⟨message, .error (.brokeDown none), []⟩⟩
    let between : List moody.Use := [⟨⟨_, .withScheme .clone failing, (moodyUse 40).message⟩, 40⟩]
    let last := moodyUse ⟨879, 999999999⟩
    let credential : Credential := ⟨"STS.two", "secret", some "token", some 1000⟩
    (moody.cacheAfter earlier).kept = some credential ∧
      credential.Valid last.now ∧ ¬ credential.Valid 880 ∧
        moody.cacheAfter (earlier ++ between ++ [last]) = moody.cacheAfter earlier ∧
          last.Signs (some credential) (last.run (moody.cacheAfter (earlier ++ between))).2 := by
  intro earlier failing between last credential
  have kept : (moody.cacheAfter earlier).kept = some credential := rfl
  have valid : credential.Valid last.now := Credential.isValid_iff.mp (by decide +kernel)
  have expired : ¬ credential.Valid 880 := fun still =>
    absurd (Credential.isValid_iff.mpr still) (by decide +kernel)
  exact ⟨kept, valid, expired, (abides_run moody).2 earlier between last credential
    (by decide +kernel) kept valid⟩

end Signer

end SignedQueue

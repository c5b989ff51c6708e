import Mathlib
import SignedQueue.Signature.Signer
/-!
**The steps of a call that signs.** What one step of such a call does depends on how far the call
has come, on what is kept and on the provider's answer. While no other call goes on, a call takes
its steps in a row, and there are three courses that it can take.

* `SignCall.Moves`, `SignCall.moves_step`: what a step can do;
* `SignCall.step_of_result`, `SignCall.steps_of_result`: a call that has ended takes no steps;
* `SignCall.steps_signing`: a call that is about to sign does so and ends;
* `Signer.sign_of_usable`: what is kept may be used, and is signed with;
* `Signer.sign_of_error`, `Signer.sign_of_answer`: it may not be used, and the provider fails or
  answers.
-/

namespace SignedQueue

/-- The line that logs that the provider is asked. -/
def Signer.askLine (signer : Signer) : LogLine :=
  ⟨.debug, "resolving credential from " ++ signer.provider.shown⟩

namespace SignCall

/-! ### One step -/

/-- What a step of a call can do. -/
inductive Moves (now : Moment) (cache : CredentialCache) (call : SignCall) :
    CredentialCache × SignCall → Prop
  | finds (stage : call.stage = .reading) (usable : Credential.isUsable cache.kept now = true) :
      Moves now cache call (cache, { call with stage := .signing cache.kept })
  | asks (stage : call.stage = .reading) (unusable : ¬ Credential.isUsable cache.kept now = true) :
      Moves now cache call
        ({ cache with asked := cache.asked + 1 },
          { call with log := call.log ++ [call.signer.askLine], stage := .asking cache.asked })
  | refused (number : Nat) (reason : Interruption) (stage : call.stage = .asking number)
      (fails : call.signer.provider.answer number = .error reason) :
      Moves now cache call
        (cache, { call with stage := .ended (.error (Signer.reword Signer.unresolved reason)) })
  | hears (number : Nat) (given : Option Credential) (stage : call.stage = .asking number)
      (answers : call.signer.provider.answer number = .ok given) :
      Moves now cache call (cache, { call with stage := .storing given })
  | keeps (given : Option Credential) (stage : call.stage = .storing given) :
      Moves now cache call ({ cache with kept := given }, { call with stage := .signing given })
  | signs (given : Option Credential) (stage : call.stage = .signing given) :
      Moves now cache call (cache, call.signWith given)
  | rests (result : Attempt Unit) (stage : call.stage = .ended result) :
      Moves now cache call (cache, call)

variable {now : Moment} {cache : CredentialCache} {call : SignCall} {number : Nat}
  {given : Option Credential} {reason : Interruption} {result : Attempt Unit}

theorem step_finds (stage : call.stage = .reading)
    (usable : Credential.isUsable cache.kept now = true) :
    call.step now cache = (cache, { call with stage := .signing cache.kept }) := by
  rw [step, stage, if_pos usable]

theorem step_asks (stage : call.stage = .reading)
    (unusable : ¬ Credential.isUsable cache.kept now = true) :
    call.step now cache =
      ({ cache with asked := cache.asked + 1 },
        { call with log := call.log ++ [call.signer.askLine], stage := .asking cache.asked }) := by
  rw [step, stage, if_neg unusable]
  rfl

theorem step_refused (stage : call.stage = .asking number)
    (fails : call.signer.provider.answer number = .error reason) :
    call.step now cache =
      (cache, { call with stage := .ended (.error (Signer.reword Signer.unresolved reason)) }) := by
  rw [step, stage]
  simp only [fails]

theorem step_hears (stage : call.stage = .asking number)
    (answers : call.signer.provider.answer number = .ok given) :
    call.step now cache = (cache, { call with stage := .storing given }) := by
  rw [step, stage]
  simp only [answers]

theorem step_keeps (stage : call.stage = .storing given) :
    call.step now cache =
      ({ cache with kept := given }, { call with stage := .signing given }) := by
  rw [step, stage]

theorem step_signs (stage : call.stage = .signing given) :
    call.step now cache = (cache, call.signWith given) := by
  rw [step, stage]

theorem step_of_result (ended : call.result? = some result) (now : Moment)
    (cache : CredentialCache) : call.step now cache = (cache, call) := by
  cases stage : call.stage with
  | ended result => rw [step, stage]
  | _ => simp [result?, stage] at ended

theorem moves_step (now : Moment) (cache : CredentialCache) (call : SignCall) :
    call.Moves now cache (call.step now cache) := by
  cases stage : call.stage with
  | reading =>
    by_cases usable : Credential.isUsable cache.kept now = true
    · rw [step_finds stage usable]
      exact .finds stage usable
    · rw [step_asks stage usable]
      exact .asks stage usable
  | asking number =>
    cases answer : call.signer.provider.answer number with
    | error reason =>
      rw [step_refused stage answer]
      exact .refused number reason stage answer
    | ok given =>
      rw [step_hears stage answer]
      exact .hears number given stage answer
  | storing given =>
    rw [step_keeps stage]
    exact .keeps given stage
  | signing given =>
    rw [step_signs stage]
    exact .signs given stage
  | ended result =>
    have ended : call.result? = some result := by rw [result?, stage]
    rw [step_of_result ended]
    exact .rests result stage

/-! ### Steps in a row -/

theorem steps_of_result (ended : call.result? = some result) (now : Moment) (count : Nat)
    (cache : CredentialCache) : call.steps now count cache = (cache, call) := by
  induction count with
  | zero => rfl
  | succ count ih =>
    rw [steps, step_of_result ended]
    exact ih

theorem steps_add (now : Moment) (first second : Nat) (cache : CredentialCache) (call : SignCall) :
    call.steps now (first + second) cache =
      (call.steps now first cache).2.steps now second (call.steps now first cache).1 := by
  induction first generalizing cache call with
  | zero => rw [Nat.zero_add, steps]
  | succ first ih =>
    rw [Nat.succ_add, steps, steps]
    exact ih _ _

/-- A call that has ended takes no steps beyond those that it needs. -/
theorem steps_remaining_add (now : Moment) (more : Nat) (cache : CredentialCache)
    (call : SignCall) :
    call.steps now (call.stage.remaining + more) cache = call.finish now cache := by
  obtain ⟨result, ended⟩ := call.finish_ends now cache
  rw [steps_add]
  exact steps_of_result ended now more _

theorem exists_result_signWith (call : SignCall) (credential : Option Credential) :
    ∃ result, (call.signWith credential).result? = some result := by
  cases credential with
  | none => exact ⟨_, rfl⟩
  | some credential => exact ⟨_, rfl⟩

/-- A call that is about to sign does so and ends. -/
theorem steps_signing (call : SignCall) (credential : Option Credential) (now : Moment) (more : Nat)
    (cache : CredentialCache) :
    { call with stage := .signing credential }.steps now (more + 1) cache =
      (cache, call.signWith credential) := by
  have signs : { call with stage := .signing credential }.step now cache =
      (cache, call.signWith credential) := by
    rw [step_signs rfl]
    cases credential <;> rfl
  obtain ⟨result, ended⟩ := call.exists_result_signWith credential
  rw [steps, signs]
  exact steps_of_result ended now more cache

end SignCall

/-! ### The three courses -/

namespace Signer

variable {signer : Signer} {now : Moment} {cache : CredentialCache} {message : RequestMessage}

/-- A signature is the first step of its call and then three more. -/
theorem sign_eq_steps (signer : Signer) (now : Moment) (cache : CredentialCache)
    (message : RequestMessage) :
    signer.sign now cache message =
      ((signer.call message).step now cache).2.steps now 3
        ((signer.call message).step now cache).1 :=
  rfl

/-- A call that finds a credential which may be used signs with it. -/
theorem sign_of_usable (usable : Credential.isUsable cache.kept now = true) :
    signer.sign now cache message = (cache, (signer.call message).signWith cache.kept) := by
  have first : (signer.call message).step now cache =
      (cache, { signer.call message with stage := .signing cache.kept }) :=
    SignCall.step_finds rfl usable
  rw [sign_eq_steps, first]
  exact SignCall.steps_signing (signer.call message) cache.kept now 2 cache

/-- A call that finds none asks the provider. -/
theorem sign_of_not_usable (unusable : ¬ Credential.isUsable cache.kept now = true) :
    signer.sign now cache message =
      { signer.call message with
          log := [signer.askLine]
          stage := .asking cache.asked }.steps now 3 { cache with asked := cache.asked + 1 } := by
  have first : (signer.call message).step now cache =
      ({ cache with asked := cache.asked + 1 },
        { signer.call message with log := [signer.askLine], stage := .asking cache.asked }) :=
    SignCall.step_asks rfl unusable
  rw [sign_eq_steps, first]

/-- A provider that fails leaves what is kept as it was, and nothing is signed. -/
theorem sign_of_error (unusable : ¬ Credential.isUsable cache.kept now = true)
    {reason : Interruption} (fails : signer.provider.answer cache.asked = .error reason) :
    signer.sign now cache message =
      ({ cache with asked := cache.asked + 1 },
        { signer.call message with
          log := [signer.askLine]
          stage := .ended (.error (reword unresolved reason)) }) := by
  rw [sign_of_not_usable unusable, SignCall.steps, SignCall.step_refused rfl fails]
  exact SignCall.steps_of_result rfl now 2 _

/-- The answer of a provider is kept, whatever it is, and signed with. -/
theorem sign_of_answer (unusable : ¬ Credential.isUsable cache.kept now = true)
    {given : Option Credential} (answers : signer.provider.answer cache.asked = .ok given) :
    signer.sign now cache message =
      ({ kept := given, asked := cache.asked + 1 },
        { signer.call message with log := [signer.askLine] }.signWith given) := by
  rw [sign_of_not_usable unusable, SignCall.steps, SignCall.step_hears rfl answers, SignCall.steps,
    SignCall.step_keeps rfl]
  exact SignCall.steps_signing { signer.call message with log := [signer.askLine] } given now 0 _

end Signer

end SignedQueue

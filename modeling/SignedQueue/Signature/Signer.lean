import SignedQueue.Signature.Provider
import SignedQueue.Signature.Scheme
/-!
**Signers.** A signer asks its provider for a credential, keeps it while it may be used, and signs
with it. All clones of a signer, whatever their schemes, share the credential that is kept.

* `CredentialCache`: what the clones of a signer share;
* `SignCall`: one call that signs a message, with the steps between which other calls may go on;
* `Signer.sign`: a call that nothing comes between; `SignCall.finish_ends` says that it ends.
-/

namespace SignedQueue

/-- A provider and a scheme. -/
structure Signer where
  provider : Provider
  scheme : Scheme

/-- What the clones of a signer share. -/
structure CredentialCache where
  /-- The credential that the provider gave last. -/
  kept : Option Credential := none
  asked : Nat := 0
  deriving Repr, DecidableEq

namespace Signer

/-- The signer with another scheme. -/
def withScheme (signer : Signer) (scheme : Scheme) : Signer :=
  { signer with scheme }

/-- How logs show a signer. -/
def describe (signer : Signer) : String :=
  "Signer \x7b provider: " ++ signer.provider.shown ++ ", scheme: " ++ signer.scheme.shown ++
    " \x7d"

/-! ### Failures -/

/-- The provider failed. -/
def unresolved (error : CallError) : CallError :=
  { kind := .signatureFailed
    message := "failed to resolve credential"
    source := some error.describe }

/-- The provider has no credential. -/
def noCredential : CallError :=
  { kind := .signatureFailed, message := "credential provider returned no credential" }

/-- The scheme failed. An error that already says so is passed on as it is. -/
def unsigned (error : CallError) : CallError :=
  if error.kind = .signatureFailed then error
  else
    { kind := .signatureFailed
      message := "failed to sign request"
      source := some error.describe }

/-- An interruption with its error, if it has one, put into other words. -/
def reword (wording : CallError → CallError) : Interruption → Interruption
  | .failed error => .failed (wording error)
  | .brokeDown said => .brokeDown said

end Signer

/-! ### One call, step by step -/

/-- How far a call that signs a message has come: what it does next, or that it has ended. -/
inductive SignCall.Stage where
  | reading
  | asking (number : Nat)
  | storing (answer : Option Credential)
  | signing (credential : Option Credential)
  | ended (result : Attempt Unit)

/-- A call that signs a message. -/
structure SignCall where
  signer : Signer
  message : RequestMessage
  log : List LogLine := []
  stage : SignCall.Stage := .reading

namespace SignCall

/-- The result of a call that has ended. -/
def result? (call : SignCall) : Option (Attempt Unit) :=
  match call.stage with
  | .ended result => some result
  | _ => none

/-- Signs with a credential, if there is one. -/
def signWith (call : SignCall) : Option Credential → SignCall
  | none => { call with stage := .ended (.error (.failed Signer.noCredential)) }
  | some credential =>
    let signing := call.signer.scheme.sign credential call.message
    { call with
      message := signing.message
      log := call.log ++ signing.log
      stage := .ended (signing.result.mapError (Signer.reword Signer.unsigned)) }

/-- The next step of a call: reading what is kept, waiting for the provider, keeping its answer, or
signing. Between two steps other calls may change what is kept. -/
def step (now : Moment) (cache : CredentialCache) (call : SignCall) : CredentialCache × SignCall :=
  match call.stage with
  | .reading =>
    if Credential.isUsable cache.kept now then (cache, { call with stage := .signing cache.kept })
    else
      ({ cache with asked := cache.asked + 1 },
        { call with
          log := call.log ++
            [⟨.debug, "resolving credential from " ++ call.signer.provider.shown⟩]
          stage := .asking cache.asked })
  | .asking number =>
    match call.signer.provider.answer number with
    | .error reason =>
      (cache, { call with stage := .ended (.error (Signer.reword Signer.unresolved reason)) })
    | .ok answer => (cache, { call with stage := .storing answer })
  | .storing answer => ({ cache with kept := answer }, { call with stage := .signing answer })
  | .signing credential => (cache, call.signWith credential)
  | .ended _ => (cache, call)

/-- Some steps of a call that nothing comes between. -/
def steps (now : Moment) : Nat → CredentialCache → SignCall → CredentialCache × SignCall
  | 0, cache, call => (cache, call)
  | count + 1, cache, call =>
    let next := call.step now cache
    steps now count next.1 next.2

/-- The most steps that a call still takes. -/
def Stage.remaining : Stage → Nat
  | .reading => 4
  | .asking _ => 3
  | .storing _ => 2
  | .signing _ => 1
  | .ended _ => 0

theorem remaining_step (now : Moment) (cache : CredentialCache) (call : SignCall) :
    (call.step now cache).2.stage.remaining ≤ call.stage.remaining - 1 := by
  unfold step
  split
  · split <;> simp_all [Stage.remaining]
  · split <;> simp_all [Stage.remaining]
  · simp_all [Stage.remaining]
  · unfold signWith
    split <;> simp_all [Stage.remaining]
  · simp_all [Stage.remaining]

theorem remaining_steps (now : Moment) (count : Nat) (cache : CredentialCache) (call : SignCall) :
    (call.steps now count cache).2.stage.remaining ≤ call.stage.remaining - count := by
  induction count generalizing cache call with
  | zero => simp [steps]
  | succ count ih =>
    have first := remaining_step now cache call
    have others := ih (call.step now cache).1 (call.step now cache).2
    simp only [steps]
    omega

/-- A call with no step left has a result. -/
theorem result?_of_remaining {call : SignCall} (none : call.stage.remaining = 0) :
    ∃ result, call.result? = some result := by
  cases stage : call.stage <;> simp_all [Stage.remaining, result?]

/-- All steps that a call still takes, while no other call goes on. -/
def finish (now : Moment) (cache : CredentialCache) (call : SignCall) :
    CredentialCache × SignCall :=
  call.steps now call.stage.remaining cache

theorem finish_ends (now : Moment) (cache : CredentialCache) (call : SignCall) :
    ∃ result, (call.finish now cache).2.result? = some result :=
  result?_of_remaining (by
    have bound := remaining_steps now call.stage.remaining cache call
    simp only [finish]
    omega)

end SignCall

/-- The call that signs a message. -/
def Signer.call (signer : Signer) (message : RequestMessage) : SignCall :=
  { signer, message }

/-- Signs a message while no other call goes on. -/
def Signer.sign (signer : Signer) (now : Moment) (cache : CredentialCache)
    (message : RequestMessage) : CredentialCache × SignCall :=
  (signer.call message).finish now cache

end SignedQueue

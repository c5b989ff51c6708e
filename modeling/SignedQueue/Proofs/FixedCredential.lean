import Mathlib
import SignedQueue.Client.Basic
import SignedQueue.Proofs.Course
import SignedQueue.Proofs.CustomHeaders
/-!
**Signing with a fixed credential.** The provider of a fixed credential always gives the same one.
Its signer never keeps another, and every call signs with it, whatever the calls beside it do.

* `forall₂_place`: lists that agree place by place, as the items of two runs or of two views of one;
* `CredentialCache.Holds`, `CredentialCache.KeepsOnly`: what the clones of such a signer keep;
* `SignCall.Uses`, `SignCall.Uses.step`: a call that signs with the credential does so all along;
* `Client.signed_fixed`: what such a client makes of a message;
* `Signer.sign_fixed`: what a call makes of it that nothing comes between, and what it logs.
-/

namespace SignedQueue

/-- Two lists that agree place by place both have an item at a place or neither has, and still agree
with two further items that agree put there. -/
theorem forall₂_place {α β : Type} {agree : α → β → Prop} {items : List α} {others : List β}
    (all : List.Forall₂ agree items others) (place : Nat) :
    items[place]? = none ∧ others[place]? = none ∨
      ∃ item other, items[place]? = some item ∧ others[place]? = some other ∧ agree item other ∧
        ∀ next next', agree next next' →
          List.Forall₂ agree (items.set place next) (others.set place next') := by
  induction all generalizing place with
  | nil => exact .inl ⟨rfl, rfl⟩
  | @cons item other items others first rest ih =>
    cases place with
    | zero => exact .inr ⟨item, other, rfl, rfl, first, fun _ _ agrees => .cons agrees rest⟩
    | succ place =>
      rcases ih place with absent | ⟨item, other, found, found', agrees, put⟩
      · exact .inl absent
      · exact .inr ⟨item, other, found, found', agrees, fun next next' new =>
          .cons first (put next next' new)⟩

/-- Nothing but a credential is kept. -/
def CredentialCache.Holds (cache : CredentialCache) (credential : Credential) : Prop :=
  ∀ kept ∈ cache.kept, kept = credential

/-- Nothing but the credential of a client is kept, if it has one. -/
def CredentialCache.KeepsOnly (cache : CredentialCache) (credential : Option Credential) : Prop :=
  ∀ given ∈ credential, cache.Holds given

/-- What is kept and may be used is this credential. -/
theorem CredentialCache.Holds.kept_eq {cache : CredentialCache} {credential : Credential}
    (holds : cache.Holds credential) {now : Moment}
    (usable : Credential.isUsable cache.kept now = true) : cache.kept = some credential := by
  cases found : cache.kept with
  | none =>
    rw [found] at usable
    cases usable
  | some kept => rw [holds kept found]

theorem CredentialCache.keepsOnly_empty (credential : Option Credential) :
    CredentialCache.KeepsOnly {} credential :=
  fun _ _ => nofun

namespace SignCall

variable {credential : Credential} {message : RequestMessage} {call : SignCall}
  {cache : CredentialCache}

/-- The stages of a call that signs a message with a credential, with what the message is there. -/
inductive Stage.Uses (credential : Credential) (message : RequestMessage) :
    RequestMessage → Stage → Prop
  | reading : Uses credential message message .reading
  | asking (number : Nat) : Uses credential message message (.asking number)
  | storing : Uses credential message message (.storing (some credential))
  | signing : Uses credential message message (.signing (some credential))
  | ended : Uses credential message (Scheme.signed credential message) (.ended (.ok ()))

/-- A call that signs a message with a fixed credential. -/
structure Uses (credential : Credential) (message : RequestMessage) (call : SignCall) : Prop where
  signer : call.signer = Client.fixedSigner credential
  place : call.stage.Uses credential message call.message

/-- A call uses its credential all along, and keeps no other. -/
theorem Uses.step (uses : call.Uses credential message) (holds : cache.Holds credential)
    (now : Moment) :
    (call.step now cache).2.Uses credential message ∧ (call.step now cache).1.Holds credential := by
  obtain ⟨signer, form, log, stage⟩ := call
  obtain ⟨fixed, place⟩ := uses
  obtain rfl : signer = Client.fixedSigner credential := fixed
  cases place with
  | reading =>
    simp only [SignCall.step]
    by_cases usable : Credential.isUsable cache.kept now = true
    · rw [if_pos usable]
      refine ⟨⟨rfl, ?_⟩, holds⟩
      rw [holds.kept_eq usable]
      exact .signing
    · rw [if_neg usable]
      exact ⟨⟨rfl, .asking _⟩, holds⟩
  | asking number => exact ⟨⟨rfl, .storing⟩, holds⟩
  | storing => exact ⟨⟨rfl, .signing⟩, fun kept found => (Option.some.inj found).symm⟩
  | signing => exact ⟨⟨rfl, .ended⟩, holds⟩
  | ended => exact ⟨⟨rfl, .ended⟩, holds⟩

theorem Uses.after (uses : call.Uses credential message) {instants : List Instant}
    (hold : ∀ instant ∈ instants, instant.2.Holds credential) :
    (call.after instants).Uses credential message := by
  induction instants generalizing call with
  | nil => exact uses
  | cons instant rest ih =>
    rw [List.forall_mem_cons] at hold
    exact ih (uses.step hold.1 instant.1).1 hold.2

/-- What such a call has made of its message is the form that is signed with the credential. -/
theorem Uses.signed?_eq (uses : call.Uses credential message) {signed : Attempt RequestMessage}
    (ended : call.signed? = some signed) : signed = .ok (Scheme.signed credential message) := by
  obtain ⟨signer, form, log, stage⟩ := call
  have place := uses.place
  cases place with
  | ended =>
    cases ended
    rfl
  | _ => cases ended

end SignCall

namespace Client

variable {client : Client} {credential : Option Credential} {message : RequestMessage}

/-- What a client makes of a message that has a fixed credential or none. -/
theorem signed_fixed (fixed : client.signer = credential.map fixedSigner)
    {instants : List Instant} {signed : Attempt RequestMessage}
    (past : ∀ instant ∈ instants, instant.2.KeepsOnly credential)
    (ready : client.signed message instants = some signed) :
    signed = .ok (Scheme.form credential message) := by
  cases credential with
  | none =>
    rw [Client.signed, fixed] at ready
    cases ready
    rfl
  | some credential =>
    rw [signed_of_signer fixed] at ready
    have uses : ((fixedSigner credential).call message).Uses credential message :=
      ⟨rfl, .reading⟩
    exact (uses.after fun instant taken => past instant taken credential rfl).signed?_eq ready

end Client

/-! ### A call that nothing comes between -/

/-- The line that logs the text that is signed. -/
def Scheme.signLine (message : RequestMessage) : LogLine :=
  ⟨.debug, "calculated string to sign: " ++ Quoted.quote (Canonical.stringToSign message)⟩

namespace Signer

/-- A signer of a fixed credential asks for it unless it keeps it and may use it, keeps it from then
on, and signs with it. -/
theorem sign_fixed {credential : Credential} {cache : CredentialCache}
    (holds : cache.Holds credential) (now : Moment) (message : RequestMessage) :
    ((Client.fixedSigner credential).sign now cache message).1 =
        (if Credential.isUsable cache.kept now then cache
        else { kept := some credential, asked := cache.asked + 1 }) ∧
      ((Client.fixedSigner credential).sign now cache message).2.message =
          Scheme.signed credential message ∧
        ((Client.fixedSigner credential).sign now cache message).2.log =
          (if Credential.isUsable cache.kept now then []
            else [(Client.fixedSigner credential).askLine]) ++ [Scheme.signLine message] := by
  by_cases usable : Credential.isUsable cache.kept now = true
  · rw [sign_of_usable usable, if_pos usable, if_pos usable, holds.kept_eq usable]
    exact ⟨rfl, rfl, rfl⟩
  · have answers : (Client.fixedSigner credential).provider.answer cache.asked =
        .ok (some credential) := rfl
    rw [sign_of_answer usable answers, if_neg usable, if_neg usable]
    exact ⟨rfl, rfl, rfl⟩

end Signer

end SignedQueue

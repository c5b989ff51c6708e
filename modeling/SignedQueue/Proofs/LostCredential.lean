import Mathlib
import SignedQueue.Signature.Interleaving
import SignedQueue.Proofs.CredentialHistory
/-!
**How a credential that is kept gets lost.** A call that finds nothing which may be used waits for
the provider and then keeps what it gets, without another look at what is kept by then. So an answer
that comes late may take the place of a credential that others have got meanwhile. Whether some
schedule leads there is told by the answers of the provider alone.

* `SignTraffic.begun`: calls through the clones of a signer, of which none has taken a step;
* `SignTraffic.Loses`: a turn takes away a credential that may be used and leaves none;
* `SignTraffic.loses_iff`: such a turn keeps an answer that may not be used;
* `SignTraffic.Sourced`: what is kept, and what a call is about to keep, are answers to questions
  that have been asked, and no more of these are asked than there are calls;
* `SignTraffic.never_loses_iff`: no schedule loses a credential exactly if the answers agree on
  whether they may be used;
* `SignTraffic.loses_of_late_answer`: two calls and a provider whose second answer is empty.
-/

namespace SignedQueue

/-! ### Answers of a provider -/

namespace Provider

/-- What a provider answered to one of the questions that it has been asked. -/
def Gave (provider : Provider) (asked : Nat) (given : Option Credential) : Prop :=
  ∃ number < asked, provider.answer number = .ok given

/-- Of what a provider answers to its first questions, either all may be used at an instant or
nothing. Questions that it fails to answer do not count. -/
def Agrees (provider : Provider) (asked : Nat) (now : Moment) : Prop :=
  ∀ given other, provider.Gave asked given → provider.Gave asked other →
    Credential.Usable given now → Credential.Usable other now

variable {provider : Provider} {asked more : Nat} {given : Option Credential}

theorem Gave.mono (gave : provider.Gave asked given) (le : asked ≤ more) :
    provider.Gave more given := by
  obtain ⟨number, lt, answers⟩ := gave
  exact ⟨number, lt.trans_le le, answers⟩

end Provider

/-! ### One call -/

namespace SignCall

/-- What a call is about to keep, if it has got an answer. -/
def late? (call : SignCall) : Option (Option Credential) :=
  match call.stage with
  | .storing given => some given
  | _ => none

/-- How many questions a call may still ask. -/
def toAsk (call : SignCall) : Nat :=
  match call.stage with
  | .reading => 1
  | _ => 0

/-- A call of a provider has asked one of the questions so far if it waits, and is about to keep
nothing but an answer to one of them. -/
structure Sourced (provider : Provider) (asked : Nat) (call : SignCall) : Prop where
  provider_eq : call.signer.provider = provider
  asking : ∀ number, call.stage = .asking number → number < asked
  late : ∀ given, call.late? = some given → provider.Gave asked given

variable {now : Moment} {cache : CredentialCache} {call : SignCall} {provider : Provider}
  {asked more : Nat} {next : CredentialCache × SignCall}

theorem Sourced.mono (sourced : call.Sourced provider asked) (le : asked ≤ more) :
    call.Sourced provider more where
  provider_eq := sourced.provider_eq
  asking number stage := (sourced.asking number stage).trans_le le
  late given about := (sourced.late given about).mono le

/-- A step keeps what the call was about to keep, and nothing else. -/
theorem Moves.kept_eq (moves : call.Moves now cache next) :
    next.1.kept = call.late?.getD cache.kept := by
  cases moves <;> simp_all [late?]

/-- A question that is asked is one that the call might still ask. -/
theorem Moves.asked_le (moves : call.Moves now cache next) :
    cache.asked ≤ next.1.asked ∧ next.1.asked + next.2.toAsk ≤ cache.asked + call.toAsk := by
  cases moves with
  | signs given stage => cases given <;> simp [signWith, toAsk]
  | _ => simp_all [toAsk]

theorem Moves.sourced (moves : call.Moves now cache next)
    (sourced : call.Sourced provider cache.asked) : next.2.Sourced provider next.1.asked := by
  have same := sourced.provider_eq
  cases moves with
  | finds | refused | keeps => exact ⟨same, nofun, nofun⟩
  | asks stage unusable =>
    refine ⟨same, fun number stage => ?_, nofun⟩
    cases stage
    exact Nat.lt_succ_self _
  | hears number given stage answers =>
    refine ⟨same, nofun, fun other about => ?_⟩
    cases about
    exact ⟨number, sourced.asking number stage, same ▸ answers⟩
  | signs given stage => cases given <;> exact ⟨same, nofun, nofun⟩
  | rests result stage => exact sourced

end SignCall

/-! ### Calls that go on at the same time -/

/-- The call that signs a message. -/
def Signer.Request.call {signer : Signer} (request : signer.Request) : SignCall :=
  request.through.call request.message

namespace SignTraffic

/-- Calls through the clones of a signer, of which none has taken a step. -/
def begun {signer : Signer} (requests : List signer.Request) : SignTraffic where
  cache := {}
  calls := requests.map Signer.Request.call

/-- A turn takes away a credential that may be used, and leaves none that may. -/
def Loses (traffic : SignTraffic) (turn : Turn) : Prop :=
  Credential.Usable traffic.cache.kept turn.now ∧
    ¬ Credential.Usable (traffic.step turn).cache.kept turn.now

/-- Calls of a provider, of which none has asked or got anything but from it, and which altogether
can ask some number of questions. -/
structure Sourced (provider : Provider) (most : Nat) (traffic : SignTraffic) : Prop where
  calls : ∀ call ∈ traffic.calls, call.Sourced provider traffic.cache.asked
  kept : ∀ credential, traffic.cache.kept = some credential →
    provider.Gave traffic.cache.asked (some credential)
  asked : traffic.cache.asked + (traffic.calls.map SignCall.toAsk).sum ≤ most

variable {signer : Signer} {traffic : SignTraffic} {turn : Turn} {call : SignCall}
  {provider : Provider} {most : Nat}

/-! ### One turn -/

theorem step_of_none (absent : traffic.calls[turn.place]? = none) :
    traffic.step turn = traffic := by
  rw [step, absent]

theorem step_of_some (found : traffic.calls[turn.place]? = some call) :
    traffic.step turn =
      { cache := (call.step turn.now traffic.cache).1
        calls := traffic.calls.set turn.place (call.step turn.now traffic.cache).2 } := by
  rw [step, found]

/-- A turn changes the call whose turn it is and no other. -/
theorem exists_step_eq (found : traffic.calls[turn.place]? = some call) :
    ∃ before after, traffic.calls = before ++ call :: after ∧
      (traffic.step turn).calls = before ++ (call.step turn.now traffic.cache).2 :: after := by
  obtain ⟨inside, rfl⟩ := List.getElem?_eq_some_iff.mp found
  obtain ⟨before, after, split, -, replaced⟩ := List.exists_of_set inside
  exact ⟨before, after, split, by rw [step_of_some found]; exact replaced⟩

/-- The turn that loses a credential is one of a call that waited, and keeps an answer which may not
be used. -/
theorem loses_iff :
    traffic.Loses turn ↔
      Credential.Usable traffic.cache.kept turn.now ∧
        ∃ call ∈ traffic.calls[turn.place]?, ∃ given, call.late? = some given ∧
          ¬ Credential.Usable given turn.now := by
  refine and_congr_right fun usable => ?_
  cases found : traffic.calls[turn.place]? with
  | none => simp [step_of_none found, usable]
  | some call =>
    rw [step_of_some found]
    dsimp only
    rw [(call.moves_step turn.now traffic.cache).kept_eq]
    cases late : call.late? with
    | none => simp [late, usable]
    | some given => simp [late]

/-- The questions that have been asked and those that may still be asked do not become more. -/
theorem asked_step_le (traffic : SignTraffic) (turn : Turn) :
    (traffic.step turn).cache.asked + ((traffic.step turn).calls.map SignCall.toAsk).sum ≤
      traffic.cache.asked + (traffic.calls.map SignCall.toAsk).sum := by
  cases found : traffic.calls[turn.place]? with
  | none => rw [step_of_none found]
  | some call =>
    obtain ⟨before, after, split, moved⟩ := exists_step_eq found
    have bound := (call.moves_step turn.now traffic.cache).asked_le.2
    rw [moved, split, step_of_some found]
    simp only [List.map_append, List.map_cons, List.sum_append, List.sum_cons]
    omega

theorem Sourced.step (sourced : traffic.Sourced provider most) (turn : Turn) :
    (traffic.step turn).Sourced provider most := by
  have asked := (traffic.asked_step_le turn).trans sourced.asked
  cases found : traffic.calls[turn.place]? with
  | none =>
    rw [step_of_none found]
    exact sourced
  | some call =>
    have moves := call.moves_step turn.now traffic.cache
    have own := sourced.calls call (List.mem_of_getElem? found)
    have more := moves.asked_le.1
    rw [step_of_some found] at asked ⊢
    refine ⟨fun other member => ?_, fun credential kept => ?_, asked⟩
    · rcases List.mem_or_eq_of_mem_set member with old | rfl
      · exact (sourced.calls other old).mono more
      · exact moves.sourced own
    · rw [moves.kept_eq] at kept
      cases late : call.late? with
      | none =>
        rw [late] at kept
        exact (sourced.kept credential kept).mono more
      | some given =>
        rw [late] at kept
        obtain rfl : given = some credential := kept
        exact (own.late _ late).mono more

/-! ### Whole schedules -/

theorem run_append (traffic : SignTraffic) (schedule later : List Turn) :
    traffic.run (schedule ++ later) = (traffic.run schedule).run later :=
  List.foldl_append

theorem run_singleton (traffic : SignTraffic) (turn : Turn) :
    traffic.run [turn] = traffic.step turn :=
  rfl

theorem Sourced.run (sourced : traffic.Sourced provider most) (schedule : List Turn) :
    (traffic.run schedule).Sourced provider most := by
  induction schedule using List.reverseRecOn with
  | nil => exact sourced
  | append_singleton earlier turn ih =>
    rw [run_append, run_singleton]
    exact ih.step turn

theorem sourced_begun (requests : List signer.Request) :
    (begun requests).Sourced signer.provider requests.length := by
  refine ⟨fun call member => ?_, nofun, ?_⟩
  · obtain ⟨request, -, rfl⟩ := List.mem_map.mp member
    exact ⟨request.variant.provider_eq, nofun, nofun⟩
  · have all : (begun requests).calls.map SignCall.toAsk = requests.map fun _ => 1 := by
      rw [begun, List.map_map]
      rfl
    rw [all]
    simp [begun]

/-- Calls whose provider gives answers that agree do not lose a credential. -/
theorem Sourced.not_loses (sourced : traffic.Sourced provider most)
    (agrees : provider.Agrees most turn.now) : ¬ traffic.Loses turn := by
  intro loses
  obtain ⟨usable, call, found, given, late, unusable⟩ := loses_iff.mp loses
  obtain ⟨credential, kept, valid⟩ := usable
  have asked : traffic.cache.asked ≤ most := le_of_add_le_left sourced.asked
  have first := (sourced.kept credential kept).mono asked
  have second := ((sourced.calls call (List.mem_of_getElem? found)).late given late).mono asked
  exact unusable (agrees _ _ first second ⟨credential, rfl, valid⟩)

/-! ### A schedule that loses a credential -/

/-- A call of a provider is at a place and has come to a stage. -/
def At (provider : Provider) (traffic : SignTraffic) (place : Nat) (stage : SignCall.Stage) :
    Prop :=
  ∃ call, traffic.calls[place]? = some call ∧ call.signer.provider = provider ∧ call.stage = stage

variable {place number : Nat} {stage : SignCall.Stage} {given : Option Credential}

theorem At.step_ne (there : traffic.At provider place stage) (other : turn.place ≠ place) :
    (traffic.step turn).At provider place stage := by
  obtain ⟨call, found, rest⟩ := there
  refine ⟨call, ?_, rest⟩
  cases mover : traffic.calls[turn.place]? with
  | none => rw [step_of_none mover, found]
  | some _ =>
    rw [step_of_some mover]
    dsimp only
    rw [List.getElem?_set_ne other, found]

theorem At.step_reading (there : traffic.At provider turn.place .reading)
    (empty : traffic.cache.kept = none) :
    (traffic.step turn).cache = { traffic.cache with asked := traffic.cache.asked + 1 } ∧
      (traffic.step turn).At provider turn.place (.asking traffic.cache.asked) := by
  obtain ⟨call, found, same, stage⟩ := there
  have unusable : ¬ Credential.isUsable traffic.cache.kept turn.now = true := by
    rw [empty]
    exact Bool.false_ne_true
  rw [step_of_some found, SignCall.step_asks stage unusable]
  exact ⟨rfl, _, List.getElem?_set_self (List.getElem?_eq_some_iff.mp found).1, same, rfl⟩

theorem At.step_asking (there : traffic.At provider turn.place (.asking number))
    (answers : provider.answer number = .ok given) :
    (traffic.step turn).cache = traffic.cache ∧
      (traffic.step turn).At provider turn.place (.storing given) := by
  obtain ⟨call, found, same, stage⟩ := there
  rw [step_of_some found, SignCall.step_hears stage (same ▸ answers)]
  exact ⟨rfl, _, List.getElem?_set_self (List.getElem?_eq_some_iff.mp found).1, same, rfl⟩

theorem At.step_storing (there : traffic.At provider turn.place (.storing given)) :
    (traffic.step turn).cache.kept = given := by
  obtain ⟨call, found, same, stage⟩ := there
  rw [step_of_some found, SignCall.step_keeps stage]

/-- The first calls wait for the provider, in the order of their places, and the others have not
taken a step. -/
structure Queued (provider : Provider) (waiting most : Nat) (traffic : SignTraffic) : Prop where
  cache : traffic.cache = { asked := waiting }
  asking : ∀ place < waiting, traffic.At provider place (.asking place)
  reading : ∀ place, waiting ≤ place → place < most → traffic.At provider place .reading

theorem Queued.step {waiting : Nat} (queued : traffic.Queued provider waiting most)
    (more : waiting < most) (now : Moment) :
    (traffic.step ⟨now, waiting⟩).Queued provider (waiting + 1) most := by
  have empty : traffic.cache.kept = none := by rw [queued.cache]
  have asked : traffic.cache.asked = waiting := by rw [queued.cache]
  have own : traffic.At provider (Turn.mk now waiting).place .reading :=
    queued.reading waiting le_rfl more
  obtain ⟨shared, moved⟩ := own.step_reading empty
  rw [asked] at moved
  refine ⟨?_, fun place lt => ?_, fun place le lt => ?_⟩
  · rw [shared, queued.cache]
  · rcases Nat.lt_succ_iff_lt_or_eq.mp lt with earlier | rfl
    · exact (queued.asking place earlier).step_ne (Nat.ne_of_gt earlier)
    · exact moved
  · exact (queued.reading place (by omega) lt).step_ne (Nat.ne_of_lt le)

theorem queued_begun (requests : List signer.Request) :
    (begun requests).Queued signer.provider 0 requests.length where
  cache := rfl
  asking place lt := absurd lt (Nat.not_lt_zero place)
  reading place _ lt := by
    refine ⟨requests[place].call, ?_, requests[place].variant.provider_eq, rfl⟩
    rw [begun, List.getElem?_map, List.getElem?_eq_getElem lt, Option.map_some]

/-- All calls up to one may come to wait for the provider before any of them gets an answer. -/
theorem queued_run (requests : List signer.Request) (now : Moment) (waiting : Nat)
    (le : waiting ≤ requests.length) :
    ((begun requests).run ((List.range waiting).map (Turn.mk now))).Queued signer.provider waiting
      requests.length := by
  induction waiting with
  | zero => exact queued_begun requests
  | succ waiting ih =>
    rw [List.range_succ, List.map_append, List.map_singleton, run_append, run_singleton]
    exact (ih (by omega)).step le now

/-- Of two calls that wait for the provider, one gets a credential that may be used and keeps it;
then the other gets an answer that may not. -/
theorem Queued.loses {waiting first second : Nat} {now : Moment} {other : Option Credential}
    (queued : traffic.Queued provider waiting most) (inFirst : first < waiting)
    (inSecond : second < waiting) (answersFirst : provider.answer first = .ok given)
    (answersSecond : provider.answer second = .ok other) (usable : Credential.Usable given now)
    (unusable : ¬ Credential.Usable other now) :
    (((traffic.step ⟨now, first⟩).step ⟨now, first⟩).step ⟨now, second⟩).Loses ⟨now, second⟩ := by
  have differ : first ≠ second := by
    rintro rfl
    rw [answersFirst] at answersSecond
    cases answersSecond
    exact unusable usable
  have asks : traffic.At provider (Turn.mk now first).place (.asking first) :=
    queued.asking first inFirst
  have heard := (asks.step_asking answersFirst).2
  have kept : ((traffic.step ⟨now, first⟩).step ⟨now, first⟩).cache.kept = given :=
    heard.step_storing
  have late : ((traffic.step ⟨now, first⟩).step ⟨now, first⟩).At provider
      (Turn.mk now second).place (.asking second) :=
    ((queued.asking second inSecond).step_ne differ).step_ne differ
  obtain ⟨shared, about⟩ := late.step_asking answersSecond
  constructor
  · rw [shared, kept]
    exact usable
  · rw [about.step_storing]
    exact unusable

/-- For calls through the clones of a signer, of any number and in any interleaving of their steps,
no turn at an instant takes away a credential that may be used, exactly if the answers that the
provider gives to as many questions as there are calls agree on whether they may be used. -/
theorem never_loses_iff (requests : List signer.Request) (now : Moment) :
    (∀ schedule place, ¬ ((begun requests).run schedule).Loses ⟨now, place⟩) ↔
      signer.provider.Agrees requests.length now := by
  constructor
  · intro never given other gave gaveOther usable
    obtain ⟨first, inFirst, answersFirst⟩ := gave
    obtain ⟨second, inSecond, answersSecond⟩ := gaveOther
    by_contra unusable
    have queued := queued_run requests now requests.length le_rfl
    have loses := queued.loses inFirst inSecond answersFirst answersSecond usable unusable
    apply never (_ ++ [⟨now, first⟩, ⟨now, first⟩, ⟨now, second⟩]) second
    rw [run_append]
    exact loses
  · intro agrees schedule place
    exact ((sourced_begun requests).run schedule).not_loses agrees

/-- A provider whose second answer is empty. -/
def forgetful : Signer where
  provider :=
    { shown := "Forgetful"
      answer := fun asked => .ok (if asked = 0 then some ⟨"id", "secret", none, none⟩ else none) }
  scheme := .headerSignature

/-- Two calls have found nothing kept. The first gets a credential that may be used, keeps it and
signs under it; then the second, which waited all the time, gets none and keeps that. -/
theorem loses_of_late_answer :
    let message : RequestMessage := { method := .get, resourcePath := "/queues" }
    let request : forgetful.Request := ⟨forgetful, .clone, message⟩
    let traffic := (begun [request, request]).run ([0, 1, 0, 0, 0, 1].map (Turn.mk 0))
    traffic.cache.kept = some ⟨"id", "secret", none, none⟩ ∧ traffic.Loses ⟨0, 1⟩ ∧
      (traffic.step ⟨0, 1⟩).cache.kept = none := by
  intro message request traffic
  have kept : traffic.cache.kept = some ⟨"id", "secret", none, none⟩ := rfl
  have lost : (traffic.step ⟨0, 1⟩).cache.kept = none := rfl
  refine ⟨kept, ⟨?_, ?_⟩, lost⟩
  · rw [kept]
    exact Credential.isUsable_iff.mp rfl
  · rw [lost]
    exact nofun

end SignTraffic

end SignedQueue

import Mathlib
/-!
**When a computation that may fail succeeds.** It does exactly if each of its parts does, and
otherwise it fails as the first part that does not.

* `bind_eq_ok`, `bind_eq_error`: two computations one after the other;
* `map_eq_ok`, `map_eq_error`: a computation whose value is changed;
* `mapError_eq_ok`, `mapError_eq_error`: a computation whose error is put into other words;
* `check_eq_ok`: a computation behind a check;
* `mapM_eq_ok_iff`, `mapM_eq_error`: a computation for each item of a list;
* `option_mapM_eq_ok_iff`, `option_mapM_eq_error`, `exists_of_rel`: a computation for an item that
  may be absent;
* `mapM_eq_ok`, `forall_mem_of_mapM`, `exists_mapM_eq_ok`: what follows where it succeeds, and when
  it does.
-/

namespace SignedQueue

variable {ε δ α β : Type}

theorem bind_eq_ok {first : Except ε α} {next : α → Except ε β} {result : β} :
    first >>= next = .ok result ↔ ∃ value, first = .ok value ∧ next value = .ok result := by
  cases first <;> simp [bind, Except.bind]

theorem bind_eq_error {first : Except ε α} {next : α → Except ε β} {error : ε} :
    first >>= next = .error error ↔
      first = .error error ∨ ∃ value, first = .ok value ∧ next value = .error error := by
  cases first <;> simp [bind, Except.bind]

theorem map_eq_ok {first : Except ε α} {change : α → β} {result : β} :
    first.map change = .ok result ↔ ∃ value, first = .ok value ∧ change value = result := by
  cases first <;> simp [Except.map]

theorem map_eq_error {first : Except ε α} {change : α → β} {error : ε} :
    first.map change = .error error ↔ first = .error error := by
  cases first <;> simp [Except.map]

theorem mapError_eq_ok {first : Except ε α} {wording : ε → δ} {result : α} :
    first.mapError wording = .ok result ↔ first = .ok result := by
  cases first <;> simp [Except.mapError]

theorem mapError_eq_error {first : Except ε α} {wording : ε → δ} {error : δ} :
    first.mapError wording = .error error ↔
      ∃ reason, first = .error reason ∧ wording reason = error := by
  cases first <;> simp [Except.mapError]

theorem check_eq_ok {bad : Prop} [Decidable bad] {fault : ε} {next : PUnit → Except ε α}
    {result : α} :
    (if bad then throw fault >>= next else next ()) = .ok result ↔
      ¬ bad ∧ next () = .ok result := by
  by_cases failed : bad
  · rw [if_pos failed]
    exact ⟨nofun, fun both => absurd failed both.1⟩
  · rw [if_neg failed, and_iff_right failed]

/-- A computation for each item of a list succeeds with what it gives for each of them, in order. -/
theorem mapM_eq_ok_iff {action : α → Except ε β} {items : List α} {results : List β} :
    items.mapM action = .ok results ↔
      List.Forall₂ (fun item result => action item = .ok result) items results := by
  induction items generalizing results with
  | nil =>
    rw [List.mapM_nil, List.forall₂_nil_left_iff]
    exact ⟨fun done => (Except.ok.inj done).symm, fun none => none ▸ rfl⟩
  | cons item rest ih =>
    rw [List.mapM_cons, bind_eq_ok, List.forall₂_cons_left_iff]
    constructor
    · rintro ⟨result, first, succeeds⟩
      obtain ⟨others, rest, made⟩ := bind_eq_ok.mp succeeds
      exact ⟨result, others, first, ih.mp rest, (Except.ok.inj made).symm⟩
    · rintro ⟨result, others, first, rest, rfl⟩
      exact ⟨result, first, bind_eq_ok.mpr ⟨others, ih.mpr rest, rfl⟩⟩

/-- It fails only as it does for one of them. -/
theorem mapM_eq_error {action : α → Except ε β} {items : List α} {error : ε}
    (fails : items.mapM action = .error error) : ∃ item ∈ items, action item = .error error := by
  induction items with
  | nil => cases fails
  | cons item rest ih =>
    rw [List.mapM_cons, bind_eq_error] at fails
    rcases fails with first | ⟨result, -, others⟩
    · exact ⟨item, List.mem_cons_self, first⟩
    · rcases bind_eq_error.mp others with later | ⟨_, -, made⟩
      · obtain ⟨item, member, fails⟩ := ih later
        exact ⟨item, List.mem_cons_of_mem _ member, fails⟩
      · cases made

/-- Where each item gives what a function says, the list gives what the function says of each. -/
theorem mapM_eq_ok {action : α → Except ε β} {meant : α → β}
    (each : ∀ {item result}, action item = .ok result → result = meant item) {items : List α}
    {results : List β} (succeeds : items.mapM action = .ok results) :
    results = items.map meant := by
  have each : List.Forall₂ (· = ·) (items.map meant) results :=
    List.forall₂_map_left_iff.mpr
      ((mapM_eq_ok_iff.mp succeeds).imp fun _ _ done => (each done).symm)
  rw [List.forall₂_eq_eq_eq] at each
  exact each.symm

/-- A computation for each item of a list succeeds for each of them. -/
theorem forall_mem_of_mapM {action : α → Except ε β} {items : List α} {results : List β}
    (succeeds : items.mapM action = .ok results) :
    ∀ item ∈ items, ∃ result, action item = .ok result := by
  rw [mapM_eq_ok_iff] at succeeds
  induction succeeds with
  | nil => exact fun _ member => nomatch member
  | cons first _ ih => exact List.forall_mem_cons.mpr ⟨⟨_, first⟩, ih⟩

theorem exists_mapM_eq_ok {action : α → Except ε β} {items : List α}
    (each : ∀ item ∈ items, ∃ result, action item = .ok result) :
    ∃ results, items.mapM action = .ok results := by
  induction items with
  | nil => exact ⟨[], rfl⟩
  | cons item rest ih =>
    rw [List.forall_mem_cons] at each
    obtain ⟨result, first⟩ := each.1
    obtain ⟨results, others⟩ := ih each.2
    rw [List.mapM_cons]
    exact ⟨result :: results, bind_eq_ok.mpr ⟨result, first, bind_eq_ok.mpr ⟨results, others, rfl⟩⟩⟩

/-! ### An item that may be absent -/

/-- A computation for an item that may be absent gives nothing exactly if there is none. -/
theorem option_mapM_eq_ok_iff {action : α → Except ε β} {item : Option α} {result : Option β} :
    item.mapM action = .ok result ↔
      Option.Rel (fun item result => action item = .ok result) item result := by
  cases item with
  | none => cases result <;> simp [pure, Except.pure]
  | some item => cases outcome : action item <;> cases result <;> simp [outcome]

/-- Where there is an item, it is related to something. -/
theorem exists_of_rel {related : α → β → Prop} {given : Option α} {result : Option β} {item : α}
    (both : Option.Rel related given result) (present : given = some item) :
    ∃ value, related item value := by
  rw [present] at both
  cases both with
  | some relates => exact ⟨_, relates⟩

theorem option_mapM_eq_error {action : α → Except ε β} {item : Option α} {error : ε}
    (fails : item.mapM action = .error error) : ∃ found ∈ item, action found = .error error := by
  cases item with
  | none => cases fails
  | some item =>
    rw [Option.mapM_some] at fails
    exact ⟨item, rfl, map_eq_error.mp fails⟩

end SignedQueue

/-!
**Cutting at a mark.** A sequence is cut at the first place where a mark stands.

* `cut`: what stands before the mark, and what stands after it;
* `cut_append`: a mark is found where it stands first;
* `append_mark_inj`: what stands before a mark and after it can be told from the whole.
-/

namespace SignedQueue

/-- What stands before the first occurrence of `mark`, and what stands after it. -/
def cut {α : Type} [BEq α] (mark : List α) : List α → Option (List α × List α)
  | [] => none
  | item :: rest =>
    if mark.isPrefixOf (item :: rest) then some ([], (item :: rest).drop mark.length)
    else (cut mark rest).map fun (before, after) => (item :: before, after)

theorem cut_length {α : Type} [BEq α] {mark items before after : List α}
    (found : cut mark items = some (before, after)) : after.length ≤ items.length := by
  induction items generalizing before with
  | nil => simp [cut] at found
  | cons item rest ih =>
    simp only [cut] at found
    split at found
    · injection found with same
      injection same with _ same
      subst same
      simp
    · simp only [Option.map_eq_some_iff, Prod.mk.injEq, Prod.exists] at found
      obtain ⟨_, _, inner, _, rfl⟩ := found
      exact Nat.le_succ_of_le (ih inner)

/-- A mark is found behind items among which its first item is not. -/
theorem cut_append {α : Type} [BEq α] [LawfulBEq α] {first : α} {mark before after : List α}
    (absent : first ∉ before) :
    cut (first :: mark) (before ++ first :: (mark ++ after)) = some (before, after) := by
  induction before with
  | nil => simp [cut]
  | cons item rest ih =>
    have differ : first ≠ item := fun same => absent (same ▸ List.mem_cons_self)
    have later := ih fun member => absent (List.mem_cons_of_mem _ member)
    have elsewhere :
        ¬ (first :: mark).isPrefixOf (item :: (rest ++ first :: (mark ++ after))) = true := by
      simp [differ]
    rw [List.cons_append, cut, if_neg elsewhere, later]
    rfl

/-- What stands before the first mark, and what stands after it, is determined. -/
theorem append_mark_inj {α : Type} [BEq α] [LawfulBEq α] {mark : α}
    {first second rest others : List α}
    (absent : mark ∉ first) (absent' : mark ∉ second)
    (same : first ++ mark :: rest = second ++ mark :: others) : first = second ∧ rest = others := by
  have found : cut [mark] (first ++ mark :: rest) = some (first, rest) := cut_append absent
  have found' : cut [mark] (second ++ mark :: others) = some (second, others) :=
    cut_append absent'
  rw [same, found'] at found
  obtain ⟨rfl, rfl⟩ := Prod.mk.inj (Option.some.inj found)
  exact ⟨rfl, rfl⟩

end SignedQueue

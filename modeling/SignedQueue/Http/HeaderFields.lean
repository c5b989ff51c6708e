import SignedQueue.Text.Ascii
/-!
**Header fields of a request.** A request holds at most one field of each name, and names are
compared without regard to ASCII case.

* `HeaderFields.set`: sets a field, in place of the one whose name differs at most in case;
  `HeaderFields.get?_set` says what is read afterwards;
* `HeaderFields.get?`: the value of a name, in any case;
* `HeaderFields.setAll`: sets several fields, one after another.
-/

namespace SignedQueue

/-- The header fields of a request, with names that stay different without regard to case. -/
structure HeaderFields where
  entries : List (String × String)
  distinct : (entries.map fun entry => Ascii.lower entry.1).Nodup
  deriving DecidableEq

namespace HeaderFields

/-- No fields. -/
def empty : HeaderFields :=
  ⟨[], List.nodup_nil⟩

/-- The value of a name in any case. -/
def get? (fields : HeaderFields) (name : String) : Option String :=
  (fields.entries.find? fun entry => Ascii.sameIgnoringCase entry.1 name).map (·.2)

/-- Whether there is a field with a name in any case. -/
def contains (fields : HeaderFields) (name : String) : Bool :=
  (fields.get? name).isSome

/-- The entries whose names differ from a name by more than case. -/
def others (entries : List (String × String)) (name : String) : List (String × String) :=
  entries.filter fun entry => !Ascii.sameIgnoringCase entry.1 name

theorem nodup_others {entries : List (String × String)}
    (distinct : (entries.map fun entry => Ascii.lower entry.1).Nodup) (name value : String) :
    ((others entries name ++ [(name, value)]).map fun entry => Ascii.lower entry.1).Nodup := by
  have kept : ((others entries name).map fun entry => Ascii.lower entry.1).Nodup :=
    distinct.sublist (List.filter_sublist.map _)
  have absent : Ascii.lower name ∉ (others entries name).map fun entry => Ascii.lower entry.1 := by
    intro member
    obtain ⟨entry, inside, same⟩ := List.mem_map.mp member
    simp [others, Ascii.sameIgnoringCase, same] at inside
  rw [List.map_append, List.nodup_append]
  refine ⟨kept, by simp, ?_⟩
  intro first firstMember second secondMember same
  simp only [List.map_cons, List.map_nil, List.mem_singleton] at secondMember
  exact absent (secondMember ▸ same ▸ firstMember)

/-- Sets a field, in place of the one whose name differs at most in case. -/
def set (fields : HeaderFields) (name value : String) : HeaderFields :=
  ⟨others fields.entries name ++ [(name, value)], nodup_others fields.distinct name value⟩

/-- A name whose entries have been taken out is not found. -/
theorem find?_others_same {name other : String} (same : Ascii.lower name = Ascii.lower other)
    (entries : List (String × String)) :
    (others entries name).find? (fun entry => Ascii.sameIgnoringCase entry.1 other) = none := by
  rw [List.find?_eq_none]
  intro entry inside
  simp only [others, List.mem_filter, Bool.not_eq_true', Ascii.sameIgnoringCase,
    beq_eq_false_iff_ne] at inside
  simp [← same, inside.2]

/-- Every other name is found as before. -/
theorem find?_others_of_ne {name other : String} (differ : Ascii.lower name ≠ Ascii.lower other)
    (entries : List (String × String)) :
    (others entries name).find? (fun entry => Ascii.sameIgnoringCase entry.1 other) =
      entries.find? fun entry => Ascii.sameIgnoringCase entry.1 other := by
  rw [others, List.find?_filter]
  congr 1
  funext entry
  by_cases here : Ascii.lower entry.1 = Ascii.lower other
  · simp [Ascii.sameIgnoringCase, here, Ne.symm differ]
  · simp [Ascii.sameIgnoringCase, here]

/-- A field that has been set is read under its name in any case, and every other field stays. -/
theorem get?_set (fields : HeaderFields) (name value other : String) :
    (fields.set name value).get? other =
      if Ascii.lower name = Ascii.lower other then some value else fields.get? other := by
  by_cases same : Ascii.lower name = Ascii.lower other
  · simp [get?, set, List.find?_append, find?_others_same same, same]
  · simp [get?, set, List.find?_append, find?_others_of_ne same, same]

/-- Sets fields one after another. -/
def setAll (fields : HeaderFields) (entries : List (String × String)) : HeaderFields :=
  entries.foldl (fun fields entry => fields.set entry.1 entry.2) fields

/-- The fields that a list of entries sets one after another. -/
def ofList (entries : List (String × String)) : HeaderFields :=
  empty.setAll entries

/-- Sets a field unless there is one of that name. -/
def setDefault (fields : HeaderFields) (name value : String) : HeaderFields :=
  if fields.contains name then fields else fields.set name value

end HeaderFields

end SignedQueue

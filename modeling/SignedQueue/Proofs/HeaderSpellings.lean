import Mathlib
import SignedQueue.Proofs.CanonicalHeaders
/-!
**Spellings of one name among headers.** A table of headers may hold a name in several spellings,
and gives its entries in whatever order. Of the spellings of a name of the service, canonical
headers keep one: the lower-case one if it is there, and else the one that happens to come first.

* `Canonical.lookup_put`, `Canonical.lookup_add`: what is found after an entry has been added;
* `Canonical.lookup_headers`: what is found among canonical headers, told by the entries;
* `Canonical.OrderFree`: headers that have one canonical form in whatever order they come;
* `Canonical.orderFree_iff`: these are the headers whose spellings agree, or have the lower-case one
  among them;
* `Canonical.order_decides_headers`: two spellings that do not;
* `HeaderFields.orderFree`: the headers of a message, where no name has two spellings.
-/

namespace SignedQueue

namespace Canonical

variable {entries : List (String × String)} {name value : String}

/-! ### Looking up -/

theorem lookup_cons (head : String × String) (rest : List (String × String)) (name : String) :
    (head :: rest).lookup name = if name = head.1 then some head.2 else rest.lookup name := by
  rw [List.lookup_cons]
  by_cases same : name = head.1
  · simp [same]
  · simp [same, beq_false_of_ne same]

/-- Where no name stands twice, an entry is there exactly if it is found under its name. -/
theorem lookup_eq_some (distinct : (entries.map Prod.fst).Nodup) :
    entries.lookup name = some value ↔ (name, value) ∈ entries := by
  induction entries with
  | nil => simp
  | cons head rest ih =>
    rw [List.map_cons, List.nodup_cons] at distinct
    obtain ⟨absent, restDistinct⟩ := distinct
    rw [lookup_cons, List.mem_cons]
    by_cases same : name = head.1
    · have notRest : (name, value) ∉ rest := by
        intro member
        exact absent (same ▸ List.mem_map_of_mem (f := Prod.fst) member)
      rw [if_pos same, or_iff_left notRest, Option.some.injEq, same]
      exact ⟨fun equal => equal ▸ rfl, fun equal => equal ▸ rfl⟩
    · have other : (name, value) ≠ head := fun equal => same (equal ▸ rfl)
      rw [if_neg same, ih restDistinct, or_iff_right other]

/-- What is found does not depend on the order of entries. -/
theorem lookup_perm {others : List (String × String)} (distinct : (entries.map Prod.fst).Nodup)
    (order : others.Perm entries) (name : String) : others.lookup name = entries.lookup name := by
  ext value
  rw [lookup_eq_some distinct, lookup_eq_some ((order.map Prod.fst).nodup_iff.mpr distinct),
    order.mem_iff]

theorem InOrder.nodup_names (order : InOrder entries) : (entries.map Prod.fst).Nodup := by
  apply List.pairwise_map.mpr
  apply List.Pairwise.imp _ order
  intro first second less same
  exact String.lt_irrefl _ (same ▸ less)

/-- Entries in order are determined by what is found among them. -/
theorem InOrder.ext_lookup {first second : List (String × String)} (firstOrder : InOrder first)
    (secondOrder : InOrder second) (same : ∀ name, first.lookup name = second.lookup name) :
    first = second := by
  apply firstOrder.ext secondOrder
  intro (name, value)
  rw [← lookup_eq_some firstOrder.nodup_names, ← lookup_eq_some secondOrder.nodup_names, same]

/-- A value that has been put under a name is found there, and every other name as before. -/
theorem lookup_put (name value : String) (entries : List (String × String)) (other : String) :
    (put name value entries).lookup other =
      if other = name then some value else entries.lookup other := by
  induction entries with
  | nil => rw [put, lookup_cons]
  | cons head rest ih =>
    unfold put
    by_cases less : name < head.1
    · rw [if_pos less, lookup_cons]
    · rw [if_neg less]
      by_cases taken : name = head.1
      · rw [if_pos taken, lookup_cons, lookup_cons, ← taken]
        by_cases same : other = name
        · rw [if_pos same, if_pos same]
        · rw [if_neg same, if_neg same, if_neg same]
      · rw [if_neg taken, lookup_cons, lookup_cons, ih]
        by_cases same : other = name
        · rw [if_pos same, if_pos same, if_neg (same ▸ taken)]
        · rw [if_neg same, if_neg same]

/-- An entry that is added is found under its canonical name, unless it is another spelling of a
name of the service and gives way to an entry that is there. -/
theorem lookup_add (canonical : List (String × String)) (added : String × String) (name : String) :
    (add canonical added).lookup name =
      if name ≠ canonicalName added.1 then canonical.lookup name
      else if isService (Ascii.lower added.1) = true ∧ added.1 ≠ Ascii.lower added.1 then
        (canonical.lookup name).or (some added.2)
      else some added.2 := by
  unfold add canonicalName
  by_cases service : isService (Ascii.lower added.1) = true
  · by_cases lowered : added.1 = Ascii.lower added.1
    · simp [← lowered, lookup_put]
    · cases found : canonical.lookup (Ascii.lower added.1) with
      | none => by_cases named : name = Ascii.lower added.1 <;>
          simp [service, lowered, lookup_put, named, found]
      | some current => by_cases named : name = Ascii.lower added.1 <;>
          simp [service, lowered, named, found]
  · simp [service, lookup_put]

/-! ### What canonical headers keep -/

/-- The value of the first entry whose name is this one in lower case. -/
def firstSpelling? (entries : List (String × String)) (name : String) : Option String :=
  (entries.find? fun entry => Ascii.lower entry.1 = name).map Prod.snd

/-- What canonical headers keep of entries under a name. Under a name of the service in lower case
this is the value of that very name, or else of its first spelling; under another spelling there is
nothing; and every other name keeps its own value. -/
def kept? (entries : List (String × String)) (name : String) : Option String :=
  if isService (Ascii.lower name) = true then
    if Ascii.lower name = name then (entries.lookup name).or (firstSpelling? entries name) else none
  else entries.lookup name

theorem firstSpelling?_concat (rest : List (String × String)) (last : String × String)
    (name : String) :
    firstSpelling? (rest ++ [last]) name =
      (firstSpelling? rest name).or (if Ascii.lower last.1 = name then some last.2 else none) := by
  unfold firstSpelling?
  rw [List.find?_append, List.find?_singleton, Option.map_or]
  by_cases same : Ascii.lower last.1 = name <;> simp [same]

theorem lookup_concat (rest : List (String × String)) (last : String × String) (name : String) :
    (rest ++ [last]).lookup name =
      (rest.lookup name).or (if name = last.1 then some last.2 else none) := by
  rw [List.lookup_append, lookup_cons, List.lookup_nil]

/-- An entry leaves what is kept under every name but its canonical one. -/
theorem kept?_concat_of_ne {last : String × String} (differ : name ≠ canonicalName last.1)
    (rest : List (String × String)) : kept? (rest ++ [last]) name = kept? rest name := by
  unfold canonicalName at differ
  unfold kept?
  by_cases service : isService (Ascii.lower name) = true
  · rw [if_pos service, if_pos service]
    by_cases lowered : Ascii.lower name = name
    · have other : Ascii.lower last.1 ≠ name := by
        rintro rfl
        rw [Ascii.lower_lower] at service
        exact differ (if_pos service).symm
      have unlike : name ≠ last.1 := fun same => other (same ▸ lowered)
      rw [if_pos lowered, if_pos lowered, lookup_concat, if_neg unlike, firstSpelling?_concat,
        if_neg other, Option.or_none, Option.or_none]
    · rw [if_neg lowered, if_neg lowered]
  · have unlike : name ≠ last.1 := by
      rintro rfl
      exact differ (if_neg service).symm
    rw [if_neg service, if_neg service, lookup_concat, if_neg unlike, Option.or_none]

/-- What is found among canonical headers, told by the entries that they were made of. -/
theorem lookup_headers (distinct : (entries.map Prod.fst).Nodup) (name : String) :
    (headers entries).lookup name = kept? entries name := by
  induction entries using List.reverseRecOn with
  | nil => simp [headers, kept?, firstSpelling?]
  | append_singleton rest last ih =>
    rw [List.map_append, List.nodup_append] at distinct
    obtain ⟨restDistinct, _, apart⟩ := distinct
    have fresh : rest.lookup last.1 = none := by
      rw [List.lookup_eq_none_iff]
      intro entry member
      simpa using (apart _ (List.mem_map_of_mem member) last.1 (by simp)).symm
    rw [headers_append_singleton, lookup_add, ih restDistinct]
    by_cases named : name = canonicalName last.1
    · rw [if_neg (not_not.mpr named)]
      unfold canonicalName at named
      by_cases service : isService (Ascii.lower last.1) = true
      · rw [if_pos service] at named
        have kept (some : List (String × String)) :
            kept? some name = (some.lookup name).or (firstSpelling? some name) := by
          rw [kept?, named, Ascii.lower_lower, if_pos service, if_pos rfl]
        rw [kept, kept, lookup_concat, firstSpelling?_concat, if_pos named.symm]
        by_cases lowered : last.1 = Ascii.lower last.1
        · -- the name itself comes last, and is there only once
          rw [if_neg fun both => both.2 lowered, named, ← lowered, fresh, if_pos rfl]
          rfl
        · rw [if_pos ⟨service, lowered⟩, if_neg fun same => lowered (same.symm.trans named),
            Option.or_none, Option.or_assoc]
      · rw [if_neg service] at named
        rw [if_neg fun both => service both.1, kept?, named, if_neg service, lookup_concat, fresh,
          if_pos rfl]
        rfl
    · rw [if_pos named, kept?_concat_of_ne named]

/-! ### The order of entries -/

/-- Headers that have the same canonical form in whatever order their entries come. -/
def OrderFree (entries : List (String × String)) : Prop :=
  ∀ first second, first.Perm entries → second.Perm entries → headers first = headers second

/-- Two spellings of a name of the service have the same value, or the lower-case one is there. -/
def SpellingsAgree (entries : List (String × String)) : Prop :=
  ∀ one ∈ entries, ∀ other ∈ entries, isService (Ascii.lower one.1) = true →
    Ascii.lower one.1 = Ascii.lower other.1 →
      one.2 = other.2 ∨ ∃ value, (Ascii.lower one.1, value) ∈ entries

/-- Of spellings without the lower-case one, the one that comes first is kept; and each of them may
come first. -/
theorem SpellingsAgree.of_orderFree (distinct : (entries.map Prod.fst).Nodup)
    (free : OrderFree entries) : SpellingsAgree entries := by
  intro one oneMember other otherMember service same
  cases lowered : entries.lookup (Ascii.lower one.1) with
  | some value => exact .inr ⟨value, (lookup_eq_some distinct).mp lowered⟩
  | none =>
    have kept : ∀ first ∈ entries, Ascii.lower first.1 = Ascii.lower one.1 →
        (headers (first :: entries.erase first)).lookup (Ascii.lower one.1) = some first.2 := by
      intro first member named
      have order := (List.perm_cons_erase member).symm
      rw [lookup_headers ((order.map Prod.fst).nodup_iff.mpr distinct), kept?, Ascii.lower_lower,
        if_pos service, if_pos rfl, lookup_perm distinct order, lowered, Option.none_or,
        firstSpelling?, List.find?_cons_of_pos (by simpa using named)]
      rfl
    have found := kept one oneMember rfl
    rw [free _ _ (List.perm_cons_erase oneMember).symm (List.perm_cons_erase otherMember).symm,
      kept other otherMember same.symm] at found
    exact .inl (Option.some.inj found).symm

theorem SpellingsAgree.orderFree (distinct : (entries.map Prod.fst).Nodup)
    (agree : SpellingsAgree entries) : OrderFree entries := by
  intro first second firstOrder secondOrder
  apply (inOrder_headers first).ext_lookup (inOrder_headers second)
  intro name
  rw [lookup_headers ((firstOrder.map Prod.fst).nodup_iff.mpr distinct),
    lookup_headers ((secondOrder.map Prod.fst).nodup_iff.mpr distinct)]
  unfold kept?
  rw [lookup_perm distinct firstOrder, lookup_perm distinct secondOrder]
  split_ifs with service lowered
  · cases found : entries.lookup name with
    | some value => rfl
    | none =>
      -- the spellings that are there have one value
      rw [Option.none_or, Option.none_or]
      apply find?_map_perm (firstOrder.trans secondOrder.symm)
      intro one oneMember other otherMember named named'
      rw [decide_eq_true_eq] at named named'
      have spelt := agree one (firstOrder.mem_iff.mp oneMember) other
        (firstOrder.mem_iff.mp otherMember) (by rw [named, ← lowered, service])
        (named.trans named'.symm)
      refine spelt.resolve_right ?_
      rintro ⟨value, member⟩
      rw [named, ← lookup_eq_some distinct, found] at member
      cases member
  · rfl
  · rfl

/-- **Canonical headers do not depend on the order of a table exactly if its spellings agree.** Of
any number of spellings of a name of the service, either all have the same value, or the lower-case
one is among them. -/
theorem orderFree_iff (distinct : (entries.map Prod.fst).Nodup) :
    OrderFree entries ↔ SpellingsAgree entries :=
  ⟨SpellingsAgree.of_orderFree distinct, SpellingsAgree.orderFree distinct⟩

/-- Three spellings of which one is in lower case, two that agree, and two of another name. -/
theorem orderFree_iff_spellings :
    let entries :=
      [("X-MNS-A", "upper"), ("x-mns-a", "lower"), ("X-Mns-A", "mixed"), ("X-MNS-B", "same"),
        ("x-Mns-b", "same"), ("Date", "today"), ("DATE", "later")]
    (entries.map Prod.fst).Nodup ∧ OrderFree entries := by
  intro entries
  have distinct : (entries.map Prod.fst).Nodup := by decide +kernel
  refine ⟨distinct, (orderFree_iff distinct).mpr ?_⟩
  have agree : ∀ one ∈ entries, ∀ other ∈ entries, Ascii.lower one.1 = Ascii.lower other.1 →
      one.2 = other.2 ∨ Ascii.lower one.1 = "x-mns-a" ∨ Ascii.lower one.1 = "date" := by
    decide +kernel
  intro one oneMember other otherMember service same
  rcases agree one oneMember other otherMember same with equal | lowered | foreign
  · exact .inl equal
  · exact .inr ⟨"lower", by rw [lowered]; decide +kernel⟩
  · have apart : isService "date" = false := by decide +kernel
    rw [foreign, apart] at service
    cases service

/-- Two orders of one table with two spellings of a name of the service, neither of them in lower
case. The canonical headers are those of the first one. -/
theorem order_decides_headers :
    ([("X-MNS-A", "one"), ("X-Mns-A", "two")].map Prod.fst).Nodup ∧
      headers [("X-MNS-A", "one"), ("X-Mns-A", "two")] = [("x-mns-a", "one")] ∧
        headers [("X-Mns-A", "two"), ("X-MNS-A", "one")] = [("x-mns-a", "two")] ∧
          ¬ OrderFree [("X-MNS-A", "one"), ("X-Mns-A", "two")] := by
  have one : headers [("X-MNS-A", "one"), ("X-Mns-A", "two")] = [("x-mns-a", "one")] := by
    decide +kernel
  have two : headers [("X-Mns-A", "two"), ("X-MNS-A", "one")] = [("x-mns-a", "two")] := by
    decide +kernel
  refine ⟨by decide, one, two, ?_⟩
  intro free
  have same := free _ _ (.refl _) (.swap _ _ _)
  rw [one, two] at same
  exact absurd same (by decide)

end Canonical

/-- The headers of a message have one canonical form, since no two of their names differ in case
only. -/
theorem HeaderFields.orderFree (fields : HeaderFields) : Canonical.OrderFree fields.entries := by
  have distinct : (fields.entries.map Prod.fst).Nodup := by
    apply List.Nodup.of_map Ascii.lower
    rw [List.map_map]
    exact fields.distinct
  apply Canonical.SpellingsAgree.orderFree distinct
  intro one oneMember other otherMember _ same
  rw [eq_of_lower_eq oneMember otherMember same]
  exact .inl rfl

end SignedQueue

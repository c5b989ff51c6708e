import Mathlib
import SignedQueue.Proofs.HeaderSpellings
import SignedQueue.Proofs.TextOctets
/-!
**Canonical headers lose nothing and are canonical for good.** Every entry of a table is kept under
its canonical name: its own name, or the name in lower case if it is one of the service's own. Where
several spellings become one name, one of their values is kept, and nothing else is put in.
Canonical headers that are taken for a table give themselves again.

* `Canonical.mem_headers_iff`: the entries of canonical headers, told by what is kept;
* `Canonical.IsCanonical`: entries in order under canonical names, which `headers` leaves alone;
* `Canonical.Keeps`: what entries have to do with the table that they are made of;
* `Canonical.keeps_headers`: canonical headers keep their table, whatever the order of its entries,
  and come back if they are put in order again.
-/

namespace SignedQueue.Canonical

variable {entries : List (String × String)} {name value : String}

/-! ### Entries under canonical names -/

/-- The entries of canonical headers are what is kept of a table. -/
theorem mem_headers_iff (distinct : (entries.map Prod.fst).Nodup) :
    (name, value) ∈ headers entries ↔ kept? entries name = some value := by
  rw [← lookup_headers distinct, lookup_eq_some (inOrder_headers entries).nodup_names]

/-- Whatever is kept is kept under a canonical name. -/
theorem canonicalName_of_kept (kept : kept? entries name = some value) :
    canonicalName name = name := by
  unfold kept? at kept
  unfold canonicalName
  split_ifs at kept ⊢ with service lowered
  · exact lowered
  · rfl

/-- Entries in order, each of them under a canonical name. -/
structure IsCanonical (entries : List (String × String)) : Prop where
  order : InOrder entries
  named : ∀ entry ∈ entries, canonicalName entry.1 = entry.1

theorem isCanonical_headers (distinct : (entries.map Prod.fst).Nodup) :
    IsCanonical (headers entries) where
  order := inOrder_headers entries
  named := fun (_, _) member => canonicalName_of_kept ((mem_headers_iff distinct).mp member)

/-- Among entries under canonical names a name of the service has one spelling only. -/
theorem firstSpelling?_eq_none (named : ∀ entry ∈ entries, canonicalName entry.1 = entry.1)
    (service : isService (Ascii.lower name) = true) (lowered : Ascii.lower name = name)
    (absent : entries.lookup name = none) : firstSpelling? entries name = none := by
  rw [firstSpelling?, Option.map_eq_none_iff, List.find?_eq_none]
  intro entry member same
  rw [decide_eq_true_eq] at same
  have own := named entry member
  rw [canonicalName, same, ← lowered, if_pos service, lowered] at own
  rw [List.lookup_eq_none_iff] at absent
  exact absurd own (by simpa using absent entry member)

/-- Canonical entries are their own canonical headers, in whatever order they come. -/
theorem IsCanonical.headers_eq (canonical : IsCanonical entries)
    {again : List (String × String)} (order : again.Perm entries) : headers again = entries := by
  have distinct := canonical.order.nodup_names
  apply (inOrder_headers again).ext_lookup canonical.order
  intro name
  rw [lookup_headers ((order.map Prod.fst).nodup_iff.mpr distinct), kept?,
    lookup_perm distinct order]
  split_ifs with service lowered
  · cases found : entries.lookup name with
    | some value => rfl
    | none =>
      have named : ∀ entry ∈ again, canonicalName entry.1 = entry.1 :=
        fun entry member => canonical.named entry (order.mem_iff.mp member)
      rw [← lookup_perm distinct order] at found
      rw [Option.none_or, firstSpelling?_eq_none named service lowered found]
  · -- no entry has a name of the service in another spelling
    symm
    rw [List.lookup_eq_none_iff]
    intro entry member
    have own := canonical.named entry member
    rw [bne_iff_ne]
    rintro rfl
    rw [canonicalName, if_pos service] at own
    exact lowered own
  · rfl

/-! ### What is kept of a table -/

/-- Entries that keep a table: in the order of the octets of their names, each from an entry of the
table, and with one for each of them. -/
structure Keeps (canonical table : List (String × String)) : Prop where
  order : canonical.Pairwise fun first second => Utf8.encode first.1 < Utf8.encode second.1
  /-- An entry is one of the table whose name is not the service's own, or it has the name of a
  spelling in lower case and the value of a spelling: of the lower-case one if that is there. -/
  source :
    ∀ name value, (name, value) ∈ canonical →
      (isService (Ascii.lower name) = false ∧ (name, value) ∈ table) ∨
        isService name = true ∧
          (∃ spelling, Ascii.lower spelling = name ∧ (spelling, value) ∈ table) ∧
            ∀ own, (name, own) ∈ table → value = own
  /-- An entry of the table is there as it is, or its name is there in lower case. -/
  kept :
    ∀ name value, (name, value) ∈ table →
      if isService (Ascii.lower name) = true then
        ∃ held, (Ascii.lower name, held) ∈ canonical
      else (name, value) ∈ canonical

/-- What is kept under a name of the service is the value of one of its spellings. -/
theorem spelling_of_kept (distinct : (entries.map Prod.fst).Nodup)
    (kept : (entries.lookup name).or (firstSpelling? entries name) = some value)
    (lowered : Ascii.lower name = name) :
    (∃ spelling, Ascii.lower spelling = name ∧ (spelling, value) ∈ entries) ∧
      ∀ own, (name, own) ∈ entries → value = own := by
  cases found : entries.lookup name with
  | some own =>
    rw [found] at kept
    cases kept
    refine ⟨⟨name, lowered, (lookup_eq_some distinct).mp found⟩, fun other member => ?_⟩
    rw [(lookup_eq_some distinct).mpr member] at found
    exact (Option.some.inj found).symm
  | none =>
    rw [found, Option.none_or] at kept
    obtain ⟨⟨spelling, _⟩, first, rfl⟩ := Option.map_eq_some_iff.mp kept
    have spelt := List.find?_some first
    rw [decide_eq_true_eq] at spelt
    refine ⟨⟨spelling, spelt, List.mem_of_find?_eq_some first⟩, fun own member => ?_⟩
    rw [(lookup_eq_some distinct).mpr member] at found
    cases found

theorem keeps_of_distinct (distinct : (entries.map Prod.fst).Nodup) :
    Keeps (headers entries) entries where
  order := (inOrder_headers entries).imp Utf8.encode_lt_encode
  source name value member := by
    rw [mem_headers_iff distinct, kept?] at member
    split_ifs at member with service lowered
    · exact .inr ⟨lowered ▸ service, spelling_of_kept distinct member lowered⟩
    · exact .inl ⟨Bool.eq_false_iff.mpr service, (lookup_eq_some distinct).mp member⟩
  kept name value member := by
    split_ifs with service
    · have spelt : (firstSpelling? entries (Ascii.lower name)).isSome = true := by
        rw [firstSpelling?, Option.isSome_map, List.find?_isSome]
        exact ⟨_, member, decide_eq_true rfl⟩
      obtain ⟨held, keeps⟩ : ∃ held, kept? entries (Ascii.lower name) = some held := by
        rw [kept?, Ascii.lower_lower, if_pos service, if_pos rfl, ← Option.isSome_iff_exists,
          Option.isSome_or, spelt, Bool.or_true]
      exact ⟨held, (mem_headers_iff distinct).mpr keeps⟩
    · rw [mem_headers_iff distinct, kept?, if_neg service]
      exact (lookup_eq_some distinct).mpr member

/-- The order in which a table gives its entries makes no difference to what keeps it. -/
theorem Keeps.of_perm {canonical table : List (String × String)} (keeps : Keeps canonical entries)
    (order : entries.Perm table) : Keeps canonical table where
  order := keeps.order
  source name value member := by
    simp only [← order.mem_iff]
    exact keeps.source name value member
  kept name value member := keeps.kept name value (order.mem_iff.mpr member)

/-- **Canonical headers lose nothing, and are canonical for good.** In whatever order a table gives
its entries, canonical headers stand in the order of their names, have an entry for each entry of
the table and nothing else, and are their own canonical headers, in whatever order these are
given. -/
theorem keeps_headers {table : List (String × String)} (distinct : (table.map Prod.fst).Nodup)
    {given : List (String × String)} (order : given.Perm table) :
    Keeps (headers given) table ∧
      ∀ again, again.Perm (headers given) → headers again = headers given := by
  have distinctGiven := (order.map Prod.fst).nodup_iff.mpr distinct
  refine ⟨(keeps_of_distinct distinctGiven).of_perm order, fun again reordered => ?_⟩
  exact (isCanonical_headers distinctGiven).headers_eq reordered

/-- A name of the service in three spellings, another one in two, and a name that is not the
service's own in two. -/
def manySpellings : List (String × String) :=
  [("X-MNS-A", "upper"), ("x-mns-a", "lower"), ("X-Mns-A", "mixed"), ("x-MNS-b", "first"),
    ("X-mns-B", "second"), ("Date", "today"), ("DATE", "later")]

/-- The lower-case spelling is kept where it is there, and else the one that is given first. -/
theorem keeps_headers_spellings :
    (manySpellings.map Prod.fst).Nodup ∧ manySpellings.reverse.Perm manySpellings ∧
      headers manySpellings.reverse =
          [("DATE", "later"), ("Date", "today"), ("x-mns-a", "lower"), ("x-mns-b", "second")] ∧
        Keeps (headers manySpellings.reverse) manySpellings ∧
          headers (headers manySpellings.reverse).reverse = headers manySpellings.reverse := by
  have distinct : (manySpellings.map Prod.fst).Nodup := by decide +kernel
  have order := List.reverse_perm manySpellings
  obtain ⟨keeps, again⟩ := keeps_headers distinct order
  exact ⟨distinct, order, by decide +kernel, keeps, again _ (List.reverse_perm _)⟩

end SignedQueue.Canonical

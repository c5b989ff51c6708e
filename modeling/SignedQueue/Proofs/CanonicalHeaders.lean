import Mathlib
import SignedQueue.Request.Canonical
import SignedQueue.Proofs.HeaderFields
/-!
**The headers that a signature covers.** They stand in the order of their names, so that they are
determined by which of them there are.

* `Canonical.inOrder_headers`: canonical headers stand in the order of their names;
* `Canonical.mem_serviceHeaders`: which of the service's own headers there are;
* `Canonical.stringToSign_congr`: the text that is signed depends on three values and on the
  service's own headers, and on no other header.
-/

namespace SignedQueue.Canonical

/-! ### The order of names -/

/-- Entries that stand in the order of their names, each name once. -/
def InOrder (entries : List (String × String)) : Prop :=
  entries.Pairwise fun first second => first.1 < second.1

theorem InOrder.nodup {entries : List (String × String)} (order : InOrder entries) :
    entries.Nodup := by
  refine List.Pairwise.imp (fun less same => ?_) order
  exact String.lt_irrefl _ (same ▸ less)

/-- Entries in order are determined by which of them there are. -/
theorem InOrder.ext {first second : List (String × String)} (firstOrder : InOrder first)
    (secondOrder : InOrder second) (same : ∀ entry, entry ∈ first ↔ entry ∈ second) :
    first = second := by
  refine List.Perm.eq_of_pairwise (fun _ _ _ _ less greater => ?_) firstOrder secondOrder
    ((List.perm_ext_iff_of_nodup firstOrder.nodup secondOrder.nodup).mpr same)
  exact absurd (String.lt_trans less greater) (String.lt_irrefl _)

/-- Putting a value under a name replaces the entry of that name. -/
theorem mem_put {name value : String} {entries : List (String × String)} (order : InOrder entries)
    {entry : String × String} :
    entry ∈ put name value entries ↔ entry = (name, value) ∨ entry ∈ entries ∧ entry.1 ≠ name := by
  induction entries with
  | nil => simp [put]
  | cons head rest ih =>
    obtain ⟨least, restOrder⟩ := List.pairwise_cons.mp order
    have later : ∀ other ∈ rest, ∀ bound, bound < head.1 ∨ bound = head.1 → other.1 ≠ bound := by
      rintro other member bound below rfl
      rcases below with less | same
      · exact String.lt_irrefl _ (String.lt_trans less (least other member))
      · exact String.lt_irrefl _ (same ▸ least other member)
    by_cases less : name < head.1
    · have others : ∀ other ∈ head :: rest, other.1 ≠ name := by
        intro other member
        rcases List.mem_cons.mp member with rfl | member
        · exact fun same => String.lt_irrefl _ (same ▸ less)
        · exact later other member name (.inl less)
      rw [put, if_pos less, List.mem_cons]
      exact or_congr_right ⟨fun member => ⟨member, others entry member⟩, And.left⟩
    · by_cases same : name = head.1
      · rw [put, if_neg less, if_pos same, List.mem_cons, List.mem_cons, or_and_right]
        have head_ne : ¬ (entry = head ∧ entry.1 ≠ name) := by
          rintro ⟨rfl, differ⟩
          exact differ same.symm
        rw [or_iff_right head_ne]
        exact or_congr_right
          ⟨fun member => ⟨member, later entry member name (.inr same)⟩, And.left⟩
      · rw [put, if_neg less, if_neg same, List.mem_cons, List.mem_cons, ih restOrder, or_and_right,
          or_left_comm]
        refine or_congr_right (or_congr_left ⟨?_, And.left⟩)
        rintro rfl
        exact ⟨rfl, Ne.symm same⟩

theorem inOrder_put (name value : String) {entries : List (String × String)}
    (order : InOrder entries) : InOrder (put name value entries) := by
  induction entries with
  | nil => exact List.pairwise_singleton _ _
  | cons head rest ih =>
    obtain ⟨least, restOrder⟩ := List.pairwise_cons.mp order
    by_cases less : name < head.1
    · rw [put, if_pos less]
      refine List.pairwise_cons.mpr ⟨?_, order⟩
      intro other member
      rcases List.mem_cons.mp member with rfl | member
      · exact less
      · exact String.lt_trans less (least other member)
    · by_cases same : name = head.1
      · rw [put, if_neg less, if_pos same]
        exact List.pairwise_cons.mpr ⟨fun other member => same ▸ least other member, restOrder⟩
      · rw [put, if_neg less, if_neg same]
        refine List.pairwise_cons.mpr ⟨?_, ih restOrder⟩
        intro other member
        rcases (mem_put restOrder).mp member with rfl | ⟨member, _⟩
        · exact String.not_le.mp fun le => same (String.le_antisymm le (String.not_lt.mp less))
        · exact least other member

theorem inOrder_add (entry : String × String) {entries : List (String × String)}
    (order : InOrder entries) : InOrder (add entries entry) := by
  simp only [add]
  split_ifs
  · exact inOrder_put _ _ order
  · exact inOrder_put _ _ order
  · exact order

theorem headers_append_singleton (rest : List (String × String)) (last : String × String) :
    headers (rest ++ [last]) = add (headers rest) last := by
  simp only [headers, List.foldl_append, List.foldl_cons, List.foldl_nil]

/-- Canonical headers stand in the order of their names. -/
theorem inOrder_headers (entries : List (String × String)) : InOrder (headers entries) := by
  induction entries using List.reverseRecOn with
  | nil => exact List.Pairwise.nil
  | append_singleton rest last ih =>
    rw [headers_append_singleton]
    exact inOrder_add last ih

/-! ### Which headers there are -/

/-- The name under which a header stands in canonical headers. -/
def canonicalName (name : String) : String :=
  if isService (Ascii.lower name) then Ascii.lower name else name

@[simp]
theorem lower_canonicalName (name : String) :
    Ascii.lower (canonicalName name) = Ascii.lower name := by
  unfold canonicalName
  split_ifs <;> simp

/-- A name that begins as the service's own do is one of them in lower case as well. -/
theorem isService_lower {name : String} (service : isService name = true) :
    isService (Ascii.lower name) = true := by
  obtain ⟨rest, split⟩ := List.isPrefixOf_iff_prefix.mp service
  refine List.isPrefixOf_iff_prefix.mpr ⟨rest.map Char.toLower, ?_⟩
  rw [Ascii.lower, String.toList_ofList, ← split, List.map_append]
  congr 1

/-- Adding a header under a name that is not there yet. -/
theorem mem_add {entries : List (String × String)} (order : InOrder entries)
    {added : String × String} (fresh : ∀ other ∈ entries, other.1 ≠ canonicalName added.1)
    {entry : String × String} :
    entry ∈ add entries added ↔ entry = (canonicalName added.1, added.2) ∨ entry ∈ entries := by
  have put_fresh : entry ∈ put (canonicalName added.1) added.2 entries ↔
      entry = (canonicalName added.1, added.2) ∨ entry ∈ entries := by
    rw [mem_put order]
    exact or_congr_right ⟨And.left, fun member => ⟨member, fresh entry member⟩⟩
  rw [← put_fresh]
  unfold canonicalName at fresh ⊢
  by_cases service : isService (Ascii.lower added.1) = true
  · have absent : (entries.lookup (Ascii.lower added.1)).isNone = true := by
      rw [Option.isNone_iff_eq_none, List.lookup_eq_none_iff]
      intro other member
      have differ := fresh other member
      rw [if_pos service] at differ
      simpa using Ne.symm differ
    simp [add, service, absent]
  · simp [add, service]

/-- The canonical headers of fields are the fields, the service's own with their names in lower
case. -/
theorem mem_headers {fields : HeaderFields} {entry : String × String} :
    entry ∈ headers fields.entries ↔
      ∃ field ∈ fields.entries, entry = (canonicalName field.1, field.2) := by
  have general : ∀ {entries : List (String × String)},
      (entries.map fun field => Ascii.lower field.1).Nodup → ∀ {entry : String × String},
        entry ∈ headers entries ↔
          ∃ field ∈ entries, entry = (canonicalName field.1, field.2) := by
    intro entries distinct
    induction entries using List.reverseRecOn with
    | nil => simp [headers]
    | append_singleton rest last ih =>
      intro entry
      rw [List.map_append, List.nodup_append] at distinct
      obtain ⟨restDistinct, _, apart⟩ := distinct
      have fresh : ∀ other ∈ headers rest, other.1 ≠ canonicalName last.1 := by
        intro other member same
        obtain ⟨field, inside, rfl⟩ := (ih restDistinct).mp member
        refine apart _ (List.mem_map_of_mem inside) (Ascii.lower last.1) (by simp) ?_
        rw [← lower_canonicalName field.1, ← lower_canonicalName last.1]
        exact congrArg Ascii.lower same
      rw [headers_append_singleton, mem_add (inOrder_headers rest) fresh, ih restDistinct]
      simp only [List.mem_append, List.mem_singleton, or_and_right, exists_or, exists_eq_left]
      exact or_comm
  exact general fields.distinct

/-! ### The service's own headers -/

/-- The service's own headers in the order of their names. -/
def serviceHeaders (fields : HeaderFields) : List (String × String) :=
  (headers fields.entries).filter fun entry => isService entry.1

theorem inOrder_serviceHeaders (fields : HeaderFields) : InOrder (serviceHeaders fields) :=
  List.Pairwise.filter _ (inOrder_headers fields.entries)

/-- The service's own headers are the fields whose names are the service's own in lower case. -/
theorem mem_serviceHeaders {fields : HeaderFields} {name value : String} :
    (name, value) ∈ serviceHeaders fields ↔
      isService name = true ∧
        ∃ spelling, Ascii.lower spelling = name ∧ (spelling, value) ∈ fields.entries := by
  rw [serviceHeaders, List.mem_filter, mem_headers, and_comm]
  refine and_congr_right ?_
  intro service
  constructor
  · rintro ⟨⟨spelling, _⟩, member, same⟩
    obtain ⟨rfl, rfl⟩ := Prod.mk.inj same
    refine ⟨spelling, ?_, member⟩
    have lowered := isService_lower service
    rw [lower_canonicalName] at lowered
    rw [canonicalName, if_pos lowered]
  · rintro ⟨spelling, rfl, member⟩
    exact ⟨(spelling, value), member, by rw [canonicalName, if_pos service]⟩

/-- Fields with the same service's own among them have the same headers of the service. -/
theorem serviceHeaders_congr {first second : HeaderFields}
    (same : ∀ name value, isService (Ascii.lower name) = true →
      ((name, value) ∈ first.entries ↔ (name, value) ∈ second.entries)) :
    serviceHeaders first = serviceHeaders second := by
  refine (inOrder_serviceHeaders first).ext (inOrder_serviceHeaders second) fun (name, value) => ?_
  rw [mem_serviceHeaders, mem_serviceHeaders]
  refine and_congr_right fun service => exists_congr fun spelling => and_congr_right ?_
  rintro rfl
  exact same spelling value service

/-- The text that is signed depends on the method, the resource, three values and the service's own
headers. -/
theorem stringToSign_congr {first second : RequestMessage} (method : first.method = second.method)
    (resource : first.resource = second.resource)
    (values : ∀ name ∈ ["Content-MD5", "Content-Type", "Date"],
      (first.header? name).getD "" = (second.header? name).getD "")
    (service : serviceHeaders first.headers = serviceHeaders second.headers) :
    stringToSign first = stringToSign second := by
  have lines : serviceLines first.headers.entries = serviceLines second.headers.entries :=
    congrArg (List.map fun entry : String × String => entry.1 ++ ":" ++ entry.2) service
  simp only [stringToSign, method, resource, lines, values "Content-MD5" (by simp),
    values "Content-Type" (by simp), values "Date" (by simp)]

end SignedQueue.Canonical

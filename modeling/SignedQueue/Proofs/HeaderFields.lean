import Mathlib
import SignedQueue.Http.HeaderFields
import SignedQueue.Request.Message
import SignedQueue.Proofs.Success
/-!
**What header fields hold, and what travels of them.** A field that is set takes the place of the
one whose name differs at most in case and leaves all others alone; a request that travels has
exactly the fields of its message, with their names in lower case.

* `find?_map_perm`: what is found among items that come in another order;
* `HeaderFields.mem_set`: the entries after a field has been set;
* `HeaderFields.get?_eq_some`: a value is read exactly if its entry is there;
* `HeaderFields.get?_setAll`: what is read after several fields have been set;
* `HeaderFields.get?_setDefault`: what is read after a default has been set;
* `HeaderFields.set_set_again`: fields that are set again to what they are;
* `HeaderFields.mem_set_of_ne`: entries of other names stay;
* `RequestMessage.toHttp_eq_ok`: what is the same in a message and in the request that travels.
-/

namespace SignedQueue

/-! ### Lower case -/

namespace Ascii

/-- A text in lower case stays as it is. -/
@[simp]
theorem lower_lower (text : String) : lower (lower text) = lower text := by
  simp [lower, Function.comp_def]

end Ascii

/-! ### Items in another order -/

/-- The value of the first item of a kind does not depend on the order of items, if all items of
this kind have the same value. -/
theorem find?_map_perm {α β : Type} {wanted : α → Bool} {value : α → β} {items others : List α}
    (order : items.Perm others)
    (agree : ∀ first ∈ items, ∀ second ∈ items, wanted first = true → wanted second = true →
      value first = value second) :
    (items.find? wanted).map value = (others.find? wanted).map value := by
  cases found : items.find? wanted with
  | none =>
    have absent : others.find? wanted = none := by
      rw [List.find?_eq_none] at found ⊢
      intro item member
      exact found item (order.mem_iff.mpr member)
    rw [absent]
  | some first =>
    have firstMember := List.mem_of_find?_eq_some found
    have present : (others.find? wanted).isSome = true :=
      List.find?_isSome.mpr ⟨first, order.mem_iff.mp firstMember, List.find?_some found⟩
    obtain ⟨second, found'⟩ := Option.isSome_iff_exists.mp present
    have secondMember := order.mem_iff.mpr (List.mem_of_find?_eq_some found')
    rw [found']
    exact congrArg some (agree first firstMember second secondMember (List.find?_some found)
      (List.find?_some found'))

/-! ### Entries and values -/

namespace HeaderFields

/-- The entries after a field has been set. -/
theorem mem_set {fields : HeaderFields} {name value : String} {entry : String × String} :
    entry ∈ (fields.set name value).entries ↔
      entry = (name, value) ∨ entry ∈ fields.entries ∧ Ascii.lower entry.1 ≠ Ascii.lower name := by
  simp only [set, others, List.mem_append, List.mem_filter, List.mem_singleton,
    Ascii.sameIgnoringCase, Bool.not_eq_true', beq_eq_false_iff_ne]
  exact or_comm

/-- Two entries whose names differ at most in case are the same entry. -/
theorem eq_of_lower_eq {fields : HeaderFields} {first second : String × String}
    (firstMember : first ∈ fields.entries) (secondMember : second ∈ fields.entries)
    (same : Ascii.lower first.1 = Ascii.lower second.1) : first = second :=
  List.inj_on_of_nodup_map fields.distinct firstMember secondMember same

/-- A value is read under a name exactly if there is an entry with it and with that name in some
case. -/
theorem get?_eq_some {fields : HeaderFields} {name value : String} :
    fields.get? name = some value ↔
      ∃ spelling, (spelling, value) ∈ fields.entries ∧ Ascii.lower spelling = Ascii.lower name := by
  constructor
  · intro read
    obtain ⟨entry, found, rfl⟩ := Option.map_eq_some_iff.mp read
    have same := List.find?_some found
    rw [Ascii.sameIgnoringCase_iff] at same
    exact ⟨entry.1, List.mem_of_find?_eq_some found, same⟩
  · rintro ⟨spelling, member, same⟩
    cases found : fields.entries.find? fun entry => Ascii.sameIgnoringCase entry.1 name with
    | none =>
      have absent := List.find?_eq_none.mp found _ member
      exact absurd (Ascii.sameIgnoringCase_iff.mpr same) absent
    | some entry =>
      have sameName := List.find?_some found
      rw [Ascii.sameIgnoringCase_iff] at sameName
      have sameEntry : entry = (spelling, value) :=
        eq_of_lower_eq (List.mem_of_find?_eq_some found) member (sameName.trans same.symm)
      simp [get?, found, sameEntry]

/-- Of several fields that are set one after another, the last one with a name is read. -/
theorem get?_setAll (fields : HeaderFields) (entries : List (String × String)) (name : String) :
    (fields.setAll entries).get? name =
      ((entries.reverse.find? fun entry => Ascii.sameIgnoringCase entry.1 name).map (·.2)).or
        (fields.get? name) := by
  induction entries using List.reverseRecOn with
  | nil => rfl
  | append_singleton rest last ih =>
    have step : fields.setAll (rest ++ [last]) = (fields.setAll rest).set last.1 last.2 := by
      rw [setAll, List.foldl_append]
      rfl
    rw [step, get?_set, List.reverse_concat, List.find?_cons]
    by_cases same : Ascii.lower last.1 = Ascii.lower name
    · rw [if_pos same, Ascii.sameIgnoringCase_iff.mpr same]
      rfl
    · rw [if_neg same, ih, Ascii.sameIgnoringCase, beq_false_of_ne same]

/-- Names that differ in case only are read alike. -/
theorem get?_congr (fields : HeaderFields) {name other : String}
    (same : Ascii.lower name = Ascii.lower other) : fields.get? name = fields.get? other := by
  unfold get? Ascii.sameIgnoringCase
  rw [same]

/-- A value under one name in any case, and nothing under every other name. -/
def under (name value asked : String) : Option String :=
  if Ascii.lower name = Ascii.lower asked then some value else none

@[simp]
theorem under_eq_none {name value asked : String} :
    under name value asked = none ↔ Ascii.lower name ≠ Ascii.lower asked := by
  simp [under]

/-- What is set is read before what was there. -/
theorem get?_set_or (fields : HeaderFields) (name value other : String) :
    (fields.set name value).get? other = (under name value other).or (fields.get? other) := by
  rw [get?_set, under]
  by_cases same : Ascii.lower name = Ascii.lower other
  · rw [if_pos same, if_pos same, Option.some_or]
  · rw [if_neg same, if_neg same, Option.none_or]

/-- A default is read where nothing else was set. -/
theorem get?_setDefault (fields : HeaderFields) (name value other : String) :
    (fields.setDefault name value).get? other =
      (fields.get? other).or (under name value other) := by
  unfold setDefault contains
  by_cases same : Ascii.lower name = Ascii.lower other
  · rw [fields.get?_congr same]
    cases held : fields.get? other with
    | none => simp [get?_set_or, held]
    | some current => simp [held]
  · rw [under_eq_none.mpr same, Option.or_none]
    split
    · rfl
    · rw [get?_set, if_neg same]

/-- What has been set is taken out again when a field of that name is set. -/
theorem set_set_same (fields : HeaderFields) (name value given : String) :
    (fields.set name value).set name given = fields.set name given := by
  simp [set, others, Ascii.sameIgnoringCase]

/-- Two fields that are set again to what they are, in the same order, stay as they are. -/
theorem set_set_again {name other : String} (differ : Ascii.lower name ≠ Ascii.lower other)
    (fields : HeaderFields) (value given : String) :
    (((fields.set name value).set other given).set name value).set other given =
      (fields.set name value).set other given := by
  have apart : Ascii.sameIgnoringCase name other = false := by simpa [Ascii.sameIgnoringCase]
  have apart' : Ascii.sameIgnoringCase other name = false := by
    simpa [Ascii.sameIgnoringCase] using differ.symm
  simp only [set, others, List.filter_append, List.filter_filter, apart, apart', Bool.not_false,
    List.filter_cons_of_pos, List.filter_nil, List.append_assoc, List.cons_append, List.nil_append,
    Bool.not_eq_eq_eq_not, Bool.not_true, Bool.not_eq_false, Ascii.sameIgnoringCase_iff,
    List.filter_cons_of_neg, mk.injEq, List.append_cancel_right_eq]
  -- taking out both names a second time takes out nothing
  congr 1
  funext entry
  cases Ascii.sameIgnoringCase entry.1 other <;> cases Ascii.sameIgnoringCase entry.1 name <;> rfl

/-! ### Entries of other names -/

section Others

variable {entry : String × String}

/-- Setting a field leaves every entry of another name. -/
theorem mem_set_of_ne {name : String} (differ : Ascii.lower entry.1 ≠ Ascii.lower name)
    (fields : HeaderFields) (value : String) :
    entry ∈ (fields.set name value).entries ↔ entry ∈ fields.entries := by
  rw [mem_set, and_iff_left differ]
  apply or_iff_right
  rintro rfl
  exact differ rfl

/-- Setting a default leaves every entry of another name, and every entry of a name that is there.
-/
theorem mem_setDefault_of_kept {fields : HeaderFields} {name : String}
    (kept : Ascii.lower entry.1 ≠ Ascii.lower name ∨ (fields.get? entry.1).isSome)
    (value : String) :
    entry ∈ (fields.setDefault name value).entries ↔ entry ∈ fields.entries := by
  unfold setDefault contains
  by_cases same : Ascii.lower entry.1 = Ascii.lower name
  · have held := kept.resolve_left (not_not.mpr same)
    rw [← fields.get?_congr same, if_pos held]
  · split
    · rfl
    · exact mem_set_of_ne same fields value

theorem mem_setAll_of_ne {entries : List (String × String)}
    (differ : ∀ other ∈ entries, Ascii.lower entry.1 ≠ Ascii.lower other.1)
    (fields : HeaderFields) : entry ∈ (fields.setAll entries).entries ↔ entry ∈ fields.entries := by
  induction entries generalizing fields with
  | nil => rfl
  | cons first rest ih =>
    rw [List.forall_mem_cons] at differ
    exact (ih differ.2 _).trans (mem_set_of_ne differ.1 fields first.2)

end Others

end HeaderFields

/-! ### What travels -/

/-- The header that a field becomes, its name in lower case. -/
def HttpHeader.ofField (entry : String × String) : HttpHeader :=
  ⟨Ascii.lower entry.1, entry.2, Ascii.lower entry.1 = "authorization"⟩

theorem HttpHeader.ofEntry_eq_ok {entry : String × String} {header : HttpHeader}
    (made : HttpHeader.ofEntry entry = .ok header) : header = HttpHeader.ofField entry := by
  simp only [HttpHeader.ofEntry] at made
  split at made
  · cases made
  · split at made
    · cases made
    · cases made
      rfl

theorem HttpHeader.valid_of_ofEntry {entry : String × String} {header : HttpHeader}
    (made : HttpHeader.ofEntry entry = .ok header) :
    Http.isHeaderName entry.1 = true ∧ Http.isHeaderValue entry.2 = true := by
  simp only [HttpHeader.ofEntry] at made
  obtain ⟨name, made⟩ := check_eq_ok.mp made
  obtain ⟨value, _⟩ := check_eq_ok.mp made
  exact ⟨by simpa using name, by simpa using value⟩

/-- Headers whose names are all different are put into a table without any giving way. -/
theorem HttpHeader.table_eq_self {headers : List HttpHeader}
    (distinct : (headers.map HttpHeader.name).Nodup) : table headers = headers := by
  induction headers using List.reverseRecOn with
  | nil => rfl
  | append_singleton rest last ih =>
    rw [List.map_append, List.nodup_append] at distinct
    obtain ⟨restDistinct, _, apart⟩ := distinct
    have kept : (rest.filter fun other => other.name ≠ last.name) = rest := by
      rw [List.filter_eq_self]
      intro other member
      simpa using apart other.name (List.mem_map_of_mem member) last.name (by simp)
    have step : table (rest ++ [last]) = put (table rest) last := by
      simp only [table, List.foldl_append, List.foldl_cons, List.foldl_nil]
    rw [step, ih restDistinct, put, kept]

namespace RequestMessage

/-- No header of a message gives way to another when they are put into the table of a request. -/
theorem table_fields (message : RequestMessage) :
    HttpHeader.table (message.headers.entries.map HttpHeader.ofField) =
      message.headers.entries.map HttpHeader.ofField := by
  refine HttpHeader.table_eq_self ?_
  rw [List.map_map]
  exact message.headers.distinct

/-- A request that travels has the address, the method, the fields and the body of its message. -/
theorem toHttp_eq_ok {message : RequestMessage} {request : HttpRequest}
    (travels : message.toHttp = .ok request) :
    Target.parse message.url = .ok request.target ∧ request.method = message.method ∧
      request.headers = message.headers.entries.map HttpHeader.ofField ∧
        request.body = message.body.getD [] := by
  obtain ⟨target, parsed, travels⟩ := bind_eq_ok.mp travels
  obtain ⟨headers, made, travels⟩ := bind_eq_ok.mp travels
  cases travels
  obtain rfl := mapM_eq_ok HttpHeader.ofEntry_eq_ok made
  exact ⟨mapError_eq_ok.mp parsed, rfl, message.table_fields, rfl⟩

/-- The names and values of the fields of a message that travels are valid. -/
theorem valid_of_toHttp {message : RequestMessage} {request : HttpRequest}
    (travels : message.toHttp = .ok request) :
    ∀ entry ∈ message.headers.entries,
      Http.isHeaderName entry.1 = true ∧ Http.isHeaderValue entry.2 = true := by
  obtain ⟨_, _, travels⟩ := bind_eq_ok.mp travels
  obtain ⟨_, made, _⟩ := bind_eq_ok.mp travels
  intro entry member
  obtain ⟨header, made⟩ := forall_mem_of_mapM made entry member
  exact HttpHeader.valid_of_ofEntry made

end RequestMessage

end SignedQueue

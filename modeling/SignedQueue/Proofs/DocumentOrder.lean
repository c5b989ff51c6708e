import Mathlib
import SignedQueue.Proofs.TreeOutline
/-!
**A name is looked up in the order of the document.** What is found under a name is the first
element with this name behind the tag of the element that is asked, however deep it stands. Whatever
is asked about this name is answered from this one element.

* `Element.StandsIn`: an element stands in another one, at any depth;
* `Element.mem_descendants_iff`, `Element.labels_eq_of_ofEvents`: the descendants are the elements
  that stand in an element, in the order of their tags;
* `Element.find?_eq_find?_descendants`: what is found is the first of them with the name;
* `Element.says?`, `Element.Shows`: what is said under a name, and a value that is shown there;
* `Element.AnswersFrom`: the answers that all come from one element;
* `Element.finds_first_descendant`: the four ways to ask find the same element, and which one.
-/

namespace SignedQueue.Markup

namespace Element

/-! ### Descendants -/

/-- An element stands in another one: it is a child of it, or stands in one. -/
def StandsIn : Element → Element → Prop :=
  Relation.TransGen fun child parent => child ∈ parent.children

variable {element other : Element} {wanted : String}

theorem mem_forest_iff {elements : List Element} :
    other ∈ forest elements ↔
      ∃ element ∈ elements, other = element ∨ other ∈ element.descendants := by
  induction elements with
  | nil => simp [forest]
  | cons element rest ih =>
    rw [forest, List.mem_cons, List.mem_append, ih, List.exists_mem_cons_iff, or_assoc]

theorem descendants_eq (element : Element) : element.descendants = forest element.children := by
  cases element
  rfl

mutual

theorem standsIn_of_mem_descendants :
    ∀ {element : Element}, other ∈ element.descendants → StandsIn other element
  | mk _ _ _, member => by
    obtain ⟨child, among, stands⟩ := standsIn_of_mem_forest member
    exact Relation.TransGen.tail' stands among

theorem standsIn_of_mem_forest :
    ∀ {elements : List Element}, other ∈ forest elements →
      ∃ element ∈ elements,
        Relation.ReflTransGen (fun child parent => child ∈ parent.children) other element
  | element :: rest, member => by
    rw [forest, List.mem_cons, List.mem_append] at member
    rcases member with rfl | inner | later
    · exact ⟨other, List.mem_cons_self, .refl⟩
    · exact ⟨element, List.mem_cons_self, (standsIn_of_mem_descendants inner).to_reflTransGen⟩
    · obtain ⟨found, among, stands⟩ := standsIn_of_mem_forest later
      exact ⟨found, List.mem_cons_of_mem _ among, stands⟩

end

/-- The descendants of an element are the elements that stand in it. -/
theorem mem_descendants_iff : other ∈ element.descendants ↔ StandsIn other element := by
  refine ⟨standsIn_of_mem_descendants, fun stands => ?_⟩
  induction stands with
  | single child =>
    rw [descendants_eq]
    exact mem_forest_iff.mpr ⟨other, child, .inl rfl⟩
  | tail _ child ih =>
    rw [descendants_eq]
    exact mem_forest_iff.mpr ⟨_, child, .inr ih⟩

/-- What stands in an element is smaller than this element. -/
theorem StandsIn.sizeOf_lt (stands : StandsIn other element) : sizeOf other < sizeOf element := by
  have smaller {child parent : Element} (member : child ∈ parent.children) :
      sizeOf child < sizeOf parent := by
    obtain ⟨name, text, children⟩ := parent
    have among : sizeOf child < sizeOf children := List.sizeOf_lt_of_mem member
    rw [mk.sizeOf_spec]
    omega
  induction stands with
  | single child => exact smaller child
  | tail _ child ih => exact ih.trans (smaller child)

/-! ### The order of the document -/

/-- What can be seen of an element itself: its name and its text. -/
def label (element : Element) : String × String :=
  (element.name, element.text)

mutual

theorem labels_outline (depth : Int) : ∀ element : Element,
    (element.outline depth).map (fun line => (line.name, line.text)) =
      (element :: element.descendants).map label
  | mk name text children => by
    rw [outline, descendants, List.map_cons, List.map_cons,
      labels_outlineAmong (depth + 1) children]
    rfl

theorem labels_outlineAmong (depth : Int) : ∀ elements : List Element,
    (outlineAmong depth elements).map (fun line => (line.name, line.text)) =
      (forest elements).map label
  | [] => rfl
  | element :: rest => by
    rw [outlineAmong, forest, List.map_append, labels_outline depth element,
      labels_outlineAmong depth rest, ← List.cons_append, List.map_append]

end

/-- A tree that is made of events has the root and its descendants in the order of their tags. -/
theorem labels_eq_of_ofEvents {events : List Event} {root : Element}
    (made : ofEvents events = .ok root) :
    (root :: root.descendants).map label =
      (outlineFrom 0 events).map fun line => (line.name, line.text) := by
  have completed : Builder.start.complete events = .ok root := made
  have whole := Builder.outline_complete completed
  rw [← labels_outline 0 root, ← whole]
  simp [Builder.outline, Builder.outlineRead, Builder.outlineOpen, Builder.start]

/-! ### Looking up -/

mutual

/-- What is found under a name is the first descendant with this name. -/
theorem find?_eq_find?_descendants (wanted : String) : ∀ element : Element,
    element.find? wanted = element.descendants.find? fun other => other.name = wanted
  | mk _ _ children => findAmong_eq_find?_forest wanted children

/-- An element itself is looked at before what stands in it, and both before the next one. -/
theorem findAmong_eq_find?_forest (wanted : String) : ∀ elements : List Element,
    findAmong wanted elements = (forest elements).find? fun other => other.name = wanted
  | [] => rfl
  | element :: rest => by
    rw [findAmong, forest, List.find?_cons, List.find?_append,
      find?_eq_find?_descendants wanted element, findAmong_eq_find?_forest wanted rest]
    by_cases same : element.name = wanted
    · simp only [same, if_true, decide_true]
    · simp only [same, if_false, decide_false]
      cases element.descendants.find? fun other => other.name = wanted <;> rfl

end

/-- What an element says under a name: the text of its first descendant with this name. -/
def says? (element : Element) (name : String) : Option String :=
  (element.descendants.find? fun other => other.name = name).map text

/-- A value that an element shows under a name in some spelling, or none where it says nothing
there. -/
def Shows {ν : Type} (spelling : String → ν → Prop) (name : String) (element : Element) :
    Option ν → Prop :=
  Option.Rel spelling (element.says? name)

theorem textOr_eq_says? (element : Element) (name : String) (default : Option String) :
    element.textOr name default = (element.says? name).or default := by
  rw [textOr, says?, find?_eq_find?_descendants]

theorem require_eq_ok_iff {name said : String} :
    element.require name = .ok said ↔ element.says? name = some said := by
  rw [require, says?, ← find?_eq_find?_descendants]
  cases element.find? name <;> simp

/-- A value is read if there is a text that can be read as this value, and none if there is no text.
-/
theorem valueOr_eq_ok_iff {α : Type} {read : String → Except String α} {name : String}
    {value : Option α} :
    element.valueOr name none read = .ok value ↔
      element.Shows (fun said value => read said = .ok value) name value := by
  rw [valueOr, Shows, says?, ← find?_eq_find?_descendants]
  cases element.find? name with
  | none => cases value <;> simp
  | some found =>
    cases outcome : read found.text <;> cases value <;> simp [outcome]

/-- What is asked about a name is answered from one element, or as if there were none with it. -/
structure AnswersFrom (element : Element) (name : String) (source : Option Element) : Prop where
  textOr : ∀ default, element.textOr name default = (source.map text).or default
  require :
    element.require name =
      source.elim (.error (.missing name element.name)) fun found => .ok found.text
  valueOr : ∀ {α : Type} (default : Option α) (read : String → Except String α),
    element.valueOr name default read =
      source.elim (.ok default) fun found =>
        ((read found.text).map some).mapError (.badValue name found.text)
  binary :
    element.binary name = source.elim (.ok none) fun found => (decodeBase64 found.text).map some

theorem answersFrom_find? (element : Element) (name : String) :
    AnswersFrom element name (element.find? name) := by
  refine ⟨fun default => rfl, ?_, fun default read => ?_, ?_⟩
  · rw [Element.require]
    cases element.find? name <;> rfl
  · rw [Element.valueOr]
    cases element.find? name with
    | none => rfl
    | some found =>
      simp only [Option.elim_some]
      cases read found.text <;> rfl
  · rw [Element.binary]
    cases element.find? name <;> rfl

/-- **What is found under a name is the first element with this name in the document.** It is the
first of the descendants, which are the elements that stand in the element that is asked, in the
order of their tags. So it is never this element itself, and there is none exactly if no element
that stands in it has the name. A text, a required text, a value and octets are all read from this
element. -/
theorem finds_first_descendant (element : Element) (name : String) :
    ((∀ other, other ∈ element.descendants ↔ StandsIn other element) ∧
      ∀ events, ofEvents events = .ok element →
        (element :: element.descendants).map label =
          (outlineFrom 0 events).map fun line => (line.name, line.text)) ∧
    element.find? name = element.descendants.find? (fun other => other.name = name) ∧
    element.find? name ≠ some element ∧
    (element.find? name = none ↔ ∀ other, StandsIn other element → other.name ≠ name) ∧
    AnswersFrom element name (element.descendants.find? fun other => other.name = name) := by
  have first := find?_eq_find?_descendants name element
  refine ⟨⟨fun _ => mem_descendants_iff, fun _ made => labels_eq_of_ofEvents made⟩, first,
    fun itself => ?_, ?_, ?_⟩
  · rw [first] at itself
    have stands := mem_descendants_iff.mp (List.mem_of_find?_eq_some itself)
    exact lt_irrefl _ stands.sizeOf_lt
  · rw [first, List.find?_eq_none]
    simp only [mem_descendants_iff, decide_eq_true_eq, ne_eq]
  · rw [← first]
    exact answersFrom_find? element name

/-- Two ids of which the first one stands deeper: it is found, also where the root has the name that
is looked up. -/
theorem finds_first_descendant_deeper :
    let deep := Element.mk "Id" "1" []
    let root := Element.mk "Id" "0" [.mk "Batch" "" [deep], .mk "Id" "2" []]
    root.find? "Id" = some deep ∧ root.require "Id" = .ok "1" ∧
      (root :: root.descendants).map label =
        [("Id", "0"), ("Batch", ""), ("Id", "1"), ("Id", "2")] ∧
      ∀ other, StandsIn other root → other.name ≠ "Handle" := by
  intro deep root
  let id : Event := .start ⟨Utf8.encode "Id"⟩
  let batch : Event := .start ⟨Utf8.encode "Batch"⟩
  have made : ofEvents
      [id, .text (Utf8.encode "0"), batch, id, .text (Utf8.encode "1"), .close (Utf8.encode "Id"),
        .close (Utf8.encode "Batch"), id, .text (Utf8.encode "2"), .close (Utf8.encode "Id"),
        .close (Utf8.encode "Id")] = .ok root := by cbv
  have inOrder := finds_first_descendant root
  refine ⟨(inOrder "Id").2.1.trans rfl, (inOrder "Id").2.2.2.2.require, ?_, ?_⟩
  · exact ((inOrder "Id").1.2 _ made).trans (by decide +kernel)
  · exact (inOrder "Handle").2.2.2.1.mp rfl

end Element

end SignedQueue.Markup

import Mathlib
import SignedQueue.Proofs.SentValues
/-!
**A batch is read item by item.** The service shows the items of a batch as the children of one root
element, each with its own fields. What is looked up in an item is found among the fields of this
item, or not at all.

* `Document.writeBatch`: the text of a document with some items;
* `Element.ofFields`: the element that some fields are read as;
* `Element.parse_writeBatch`: the tree of such a document;
* `Field.said?`, `Field.shown?`: what an item says under a name, and what is read there;
* `Element.find?_ofFields`: this is all that is found under a name in an item;
* `Field.said?_of_perm`, `Field.shown?_of_perm`: this of fields with different names, in any order.
-/

namespace SignedQueue.Markup

/-! ### The document of a batch -/

/-- An item of a batch as it is written. -/
def Field.writeAll (name : String) (fields : List Field) : String :=
  "<" ++ name ++ ">" ++ String.join (fields.map Field.write) ++ "</" ++ name ++ ">"

/-- The text of a document with a root element and some items of one name, each with its fields. -/
def Document.writeBatch (root name : String) (items : List (List Field)) : String :=
  declaration ++ "<" ++ root ++ " xmlns=\"" ++ namespaceName ++ "\">" ++
    String.join (items.map (Field.writeAll name)) ++ "</" ++ root ++ ">"

/-- The element that some fields are read as. -/
def Element.ofFields (name : String) (fields : List Field) : Element :=
  .mk name "" (fields.filterMap Field.readElement?)

theorem Field.readsAs_writeAll {name : String} {fields : List Field} (plainName : IsPlainName name)
    (plain : ∀ field ∈ fields, IsPlainName field.name) :
    ReadsAs (Utf8.encode (Field.writeAll name fields)) "" [Element.ofFields name fields] := by
  rw [Field.writeAll, encode_element]
  exact (Field.readsAs_join plain).element plainName.opens_self plainName

theorem Field.head?_writeAll (name : String) (fields : List Field) :
    ∀ octet ∈ (Utf8.encode (Field.writeAll name fields)).head?, octet = 60 := by
  intro octet first
  rw [Field.writeAll, encode_element] at first
  exact (Option.some.inj first).symm

/-- The document of a batch is read as its root with one child for each item, in order. -/
theorem Element.parse_writeBatch {root name : String} {items : List (List Field)}
    (plainRoot : IsPlainName root) (plainName : IsPlainName name)
    (plain : ∀ fields ∈ items, ∀ field ∈ fields, IsPlainName field.name) :
    Element.parse (Utf8.encode (Document.writeBatch root name items)) =
      .ok (.mk root "" (items.map (Element.ofFields name))) := by
  have reads := (ReadsAs.join (Field.head?_writeAll name) fun fields member =>
    Field.readsAs_writeAll plainName (plain fields member)).1
  rw [← List.map_eq_flatMap] at reads
  exact Element.parse_rooted plainRoot reads

/-- Items that all have plain names, because whatever they are laid out for has. -/
theorem Field.plain_of_forall₂ {α : Type} {laidOut : List Field → α → Prop}
    (each : ∀ layout item, laidOut layout item → ∀ field ∈ layout, IsPlainName field.name)
    {layouts : List (List Field)} {items : List α} (all : List.Forall₂ laidOut layouts items) :
    ∀ layout ∈ layouts, ∀ field ∈ layout, IsPlainName field.name := by
  have both := all.imp fun layout item laid => And.intro (each layout item laid) laid
  exact ((List.forall₂_and_left layouts items).mp both).1

theorem Field.plain_of_perm {fields layout : List Field} (order : layout.Perm fields)
    (plain : ∀ name ∈ fields.map Field.name, IsPlainName name) :
    ∀ field ∈ layout, IsPlainName field.name :=
  fun _ member => plain _ (List.mem_map_of_mem (order.mem_iff.mp member))

/-- The items of a batch are all the children with their name. -/
theorem Element.childrenNamed_batch (root name : String) (items : List (List Field)) :
    (Element.mk root "" (items.map (Element.ofFields name))).childrenNamed name =
      items.map (Element.ofFields name) := by
  apply List.filter_eq_self.mpr
  intro element member
  obtain ⟨fields, -, rfl⟩ := List.mem_map.mp member
  exact decide_eq_true rfl

/-! ### Looking up in an item -/

/-- The text of the first field with a name that is set. -/
def Field.said? (name : String) (fields : List Field) : Option String :=
  fields.findSome? fun field => if field.name = name then field.value else none

theorem Field.said?_cons (name : String) (field : Field) (rest : List Field) :
    Field.said? name (field :: rest) =
      (if field.name = name then field.value else none).or (Field.said? name rest) := by
  rw [said?, List.findSome?_cons]
  cases (if field.name = name then field.value else none : Option String) <;> rfl

/-- What an item says under a name is the text of its first field with this name that is set, less
the blanks around it. -/
theorem Element.find?_ofFields (item name : String) (fields : List Field) :
    (Element.ofFields item fields).find? name =
      (Field.said? name fields).map fun text => .mk name (trimBlanks text) [] := by
  show Element.findAmong name (fields.filterMap Field.readElement?) = _
  induction fields with
  | nil => rfl
  | cons field rest ih =>
    obtain ⟨fieldName, value⟩ := field
    rw [Field.said?_cons]
    cases value with
    | none =>
      rw [ite_self]
      exact ih
    | some value =>
      show Element.findAmong name (.mk fieldName (trimBlanks value) [] ::
        rest.filterMap Field.readElement?) = _
      rw [Element.findAmong, Element.name]
      split_ifs with same
      · rw [same]
        rfl
      · exact ih

/-- What is read under a name, if anything is: what fields say there, less the blanks around it. -/
def Field.shown? (name : String) (fields : List Field) : Option String :=
  (Field.said? name fields).map trimBlanks

theorem Element.textOr_ofFields (item name : String) (fields : List Field)
    (default : Option String) :
    (Element.ofFields item fields).textOr name default =
      (Field.shown? name fields).or default := by
  rw [Element.textOr, find?_ofFields, Option.map_map]
  rfl

/-- Of fields with different names each says its text under its own name, in whatever order they
come. -/
theorem Field.said?_of_perm {fields layout : List Field} (distinct : (fields.map Field.name).Nodup)
    (order : layout.Perm fields) {field : Field} (member : field ∈ fields) :
    Field.said? field.name layout = field.value := by
  cases found : Field.said? field.name layout with
  | none =>
    have told := List.findSome?_eq_none_iff.mp found field (order.mem_iff.mpr member)
    rw [if_pos rfl] at told
    exact told.symm
  | some text =>
    obtain ⟨twin, present, told⟩ := List.exists_of_findSome?_eq_some found
    split_ifs at told with same
    rw [List.inj_on_of_nodup_map distinct (order.mem_iff.mp present) member same] at told
    exact told.symm

/-- What is read of them is the text of each, if no blanks stand around it. -/
theorem Field.shown?_of_perm {fields layout : List Field} (distinct : (fields.map Field.name).Nodup)
    (order : layout.Perm fields) {name : String} {value : Option String}
    (member : ⟨name, value⟩ ∈ fields) (unpadded : ∀ text ∈ value, Unpadded text) :
    Field.shown? name layout = value := by
  rw [shown?, said?_of_perm distinct order member]
  cases value with
  | none => rfl
  | some text => exact congrArg some (trimBlanks_eq_self_iff.mpr (unpadded text rfl))

end SignedQueue.Markup

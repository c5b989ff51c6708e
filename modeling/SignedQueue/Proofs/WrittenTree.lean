import Mathlib
import SignedQueue.Proofs.DocumentOrder
import SignedQueue.Proofs.WrittenDocument
/-!
**Any tree can be written, and what stands in it too.** A tree stands in a document as its tags with
its text and its children between them. In the root texts and children may take turns, as they do
where a document is laid out on lines.

* `Element.write`, `Element.events`: a tree as it is written, and the events that it is read as;
* `Element.scanFrom_write`: they are its events, whatever follows;
* `Content`: texts and children that take turns;
* `Content.document`, `Content.scan_document`: a document with such content, and its events.
-/

namespace SignedQueue.Markup

namespace Element

/-! ### Trees -/

mutual

/-- An element as it is written: its text and its children between its tags. -/
def write : Element → String
  | mk name text children =>
    "<" ++ name ++ ">" ++ (Reference.escape text ++ writeAll children) ++ "</" ++ name ++ ">"

/-- Some elements as they are written, one after the other. -/
def writeAll : List Element → String
  | [] => ""
  | element :: rest => element.write ++ writeAll rest

end

mutual

/-- The events that a written element is read as. -/
def events : Element → List Event
  | mk name text children =>
    elementEvents (Utf8.encode name) name (textEvents text ++ eventsAll children)

/-- The events that some written elements are read as. -/
def eventsAll : List Element → List Event
  | [] => []
  | element :: rest => element.events ++ eventsAll rest

end

/-- An element whose name may stand in a tag, and so may the names of all that stands in it. -/
def IsPlain (element : Element) : Prop :=
  ∀ other ∈ element :: element.descendants, IsPlainName other.name

instance (element : Element) : Decidable element.IsPlain :=
  List.decidableBAll _ _

variable {name text : String} {element : Element} {elements : List Element}

theorem isPlain_mk :
    IsPlain (mk name text elements) ↔ IsPlainName name ∧ ∀ element ∈ elements, IsPlain element := by
  rw [IsPlain, List.forall_mem_cons, descendants_eq]
  refine and_congr_right fun _ => ?_
  show (∀ other ∈ forest elements, _) ↔ _
  simp only [mem_forest_iff, IsPlain, List.forall_mem_cons]
  constructor
  · intro each element member
    exact ⟨each element ⟨element, member, .inl rfl⟩,
      fun other stands => each other ⟨element, member, .inr stands⟩⟩
  · rintro each other ⟨element, member, rfl | stands⟩
    · exact (each other member).1
    · exact (each element member).2 other stands

/-- A written element begins with a bracket. -/
theorem head?_write (element : Element) : (Utf8.encode element.write).head? = some 60 := by
  obtain ⟨name, text, children⟩ := element
  rw [write, encode_element]
  rfl

theorem head?_writeAll (elements : List Element) :
    ∀ octet ∈ (Utf8.encode (writeAll elements)).head?, octet = 60 := by
  cases elements with
  | nil => exact fun _ first => nomatch first
  | cons element rest =>
    intro octet first
    rw [writeAll, Utf8.encode_append, List.head?_append, head?_write] at first
    exact (Option.some.inj first).symm

mutual

/-- A written element is read as its events, whatever is open and whatever follows. -/
theorem scanFrom_write (opened : List Octets) (after : Octets) :
    ∀ element : Element, IsPlain element →
      scanFrom opened (Utf8.encode element.write ++ after) =
        element.events.foldr Scan.cons (scanFrom opened after)
  | mk name text children, plain => by
    rw [isPlain_mk] at plain
    have scans : ScansTo (Utf8.encode (Reference.escape text ++ writeAll children))
        (textEvents text ++ eventsAll children) := by
      rw [Utf8.encode_append]
      exact (scansTo_text text).append
        (fun opened after => scanFrom_writeAll opened (60 :: after) children plain.2)
        (head?_writeAll children)
    rw [write, encode_element, events]
    exact scans.element plain.1.opens_self plain.1 opened after

theorem scanFrom_writeAll (opened : List Octets) (after : Octets) :
    ∀ elements : List Element, (∀ element ∈ elements, IsPlain element) →
      scanFrom opened (Utf8.encode (writeAll elements) ++ after) =
        (eventsAll elements).foldr Scan.cons (scanFrom opened after)
  | [], _ => rfl
  | element :: rest, plain => by
    rw [List.forall_mem_cons] at plain
    rw [writeAll, eventsAll, Utf8.encode_append, List.append_assoc, List.foldr_append,
      scanFrom_write opened _ element plain.1, scanFrom_writeAll opened after rest plain.2]

end

end Element

/-! ### Texts and children in turns -/

/-- What stands in an element where texts and children take turns: children, each with the text
before it, and the text at the end. -/
structure Content where
  parts : List (String × Element)
  ending : String

namespace Content

/-- The children of some content, in order. -/
def children (content : Content) : List Element :=
  content.parts.map Prod.snd

/-- Content as it is written. -/
def write (content : Content) : String :=
  content.parts.foldr (fun part rest => Reference.escape part.1 ++ (part.2.write ++ rest))
    (Reference.escape content.ending)

/-- The events that written content is read as. -/
def events (content : Content) : List Event :=
  content.parts.foldr (fun part rest => textEvents part.1 ++ (part.2.events ++ rest))
    (textEvents content.ending)

/-- The document with a root element that has some content. -/
def document (root : String) (content : Content) : String :=
  Document.declaration ++ "<" ++ root ++ " xmlns=\"" ++ Document.namespaceName ++ "\">" ++
    content.write ++ "</" ++ root ++ ">"

variable {root : String} {content : Content}

theorem scansTo_write (plain : ∀ child ∈ content.children, child.IsPlain) :
    ScansTo (Utf8.encode content.write) content.events := by
  obtain ⟨parts, ending⟩ := content
  induction parts with
  | nil => exact scansTo_text ending
  | cons part rest ih =>
    obtain ⟨text, child⟩ := part
    obtain ⟨plainChild, plainRest⟩ := List.forall_mem_cons.mp plain
    have later := ih plainRest
    show ScansTo (Utf8.encode (Reference.escape text ++ (child.write ++ write ⟨rest, ending⟩)))
      (textEvents text ++ (child.events ++ events ⟨rest, ending⟩))
    rw [Utf8.encode_append]
    refine (scansTo_text text).append (fun opened after => ?_) fun octet first => ?_
    · rw [Utf8.encode_append, List.append_assoc, List.foldr_append,
        child.scanFrom_write opened _ plainChild, later]
    · rw [Utf8.encode_append, List.head?_append, child.head?_write] at first
      exact (Option.some.inj first).symm

/-- The events of a document with some content. -/
theorem scan_document (plainRoot : IsPlainName root)
    (plain : ∀ child ∈ content.children, child.IsPlain) :
    scan (Utf8.encode (content.document root)) =
      ⟨.other :: elementEvents (rootContent root) root content.events, none⟩ := by
  rw [document, encode_rooted]
  exact (scansTo_write plain).scan_root (plainRoot.opens areAttributes_namespace) plainRoot

end Content

end SignedQueue.Markup

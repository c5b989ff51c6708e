import SignedQueue.Markup.Element
import SignedQueue.Markup.Lexer
import SignedQueue.Markup.Reference
/-!
**From events to a tree.** The elements that are open stand on a stack, the innermost on top. A tag
that closes an element hands it to the one below, or makes it the root.

* `Builder.step`: what one event does to the stack;
* `Element.ofEvents`: the root element of a sequence of events that ends with the document;
* `Element.parse`: the root element of a document.
-/

namespace SignedQueue.Markup

namespace Element

/-- Why a document is no element. -/
inductive Fault where
  | markup (fault : Markup.Fault)
  | badText (fault : Utf8.Fault)
  | badReference (fault : Reference.Fault)
  | unexpectedClose
  | unclosed (name : String)
  | noRoot
  | manyRoots
  deriving Repr, DecidableEq

/-- A fault as an error of the call: the response cannot be read. -/
def Fault.toCallError : Fault → CallError
  | .markup fault => .ofFault .responseUnparsable fault.message
  | .badText fault =>
    .ofFault .responseUnparsable ("cannot decode input using UTF-8: " ++ fault.message)
  | .badReference fault => .ofFault .responseUnparsable fault.message
  | .unexpectedClose => { kind := .responseUnparsable, message := "unexpected closing tag" }
  | .unclosed name =>
    { kind := .responseUnparsable, message := "element <" ++ name ++ "> is not closed" }
  | .noRoot => { kind := .responseUnparsable, message := "document has no root element" }
  | .manyRoots =>
    { kind := .responseUnparsable, message := "document has multiple root elements" }

/-- The text of a piece of a document, with its references replaced. -/
def resolvedText (raw : Octets) : Except Fault String := do
  let characters ← (Utf8.chars raw).mapError .badText
  let resolved ← (Reference.resolve characters).mapError .badReference
  return String.ofList resolved

end Element

/-- The elements read so far: those that are open, innermost first, and the root if it is closed. -/
structure Builder where
  opened : List Element
  root : Option Element
  deriving Repr

namespace Builder

/-- Nothing has been read. -/
def start : Builder :=
  ⟨[], none⟩

/-- The element that a tag opens. -/
def elementOf (tag : Tag) : Element :=
  .named (Utf8.lossy tag.localName)

/-- A closed element becomes the last child of the innermost open one, or the root. -/
def attach (builder : Builder) (element : Element) : Except Element.Fault Builder :=
  match builder.opened with
  | parent :: outer => .ok { builder with opened := parent.addChild element :: outer }
  | [] =>
    match builder.root with
    | some _ => .error .manyRoots
    | none => .ok { builder with root := some element }

/-- Text belongs to the innermost open element; outside the root it is not even looked at. -/
def addText (builder : Builder) (text : Except Element.Fault String) :
    Except Element.Fault Builder :=
  match builder.opened with
  | [] => .ok builder
  | innermost :: outer =>
    text.map fun text => { builder with opened := innermost.addText text :: outer }

/-- What one event does. -/
def step (builder : Builder) : Event → Except Element.Fault Builder
  | .start tag => .ok { builder with opened := elementOf tag :: builder.opened }
  | .empty tag => builder.attach (elementOf tag)
  | .text raw => builder.addText (Element.resolvedText raw)
  | .cdata raw => builder.addText (.ok (Utf8.lossy raw))
  | .close _ =>
    match builder.opened with
    | [] => .error .unexpectedClose
    | innermost :: outer => { builder with opened := outer }.attach innermost
  | .doctype => .ok builder
  | .other => .ok builder

/-- The root, once the document has ended. -/
def finish (builder : Builder) : Except Element.Fault Element :=
  match builder.opened with
  | innermost :: _ => .error (.unclosed innermost.name)
  | [] =>
    match builder.root with
    | some root => .ok root
    | none => .error .noRoot

end Builder

namespace Element

/-- The root element of a sequence of events, after which the document ends. -/
def ofEvents (events : List Event) : Except Fault Element := do
  let builder ← events.foldlM Builder.step Builder.start
  builder.finish

/-- The root element of a document. The blanks around each piece of text do not belong to it. -/
def parse (document : Octets) : Except Fault Element :=
  let scan := Markup.scan document
  let events := scan.events.filterMap Event.trimmed
  match scan.fault with
  | none => ofEvents events
  | some fault => do
    let _ ← events.foldlM Builder.step Builder.start
    throw (.markup fault)

end Element

end SignedQueue.Markup

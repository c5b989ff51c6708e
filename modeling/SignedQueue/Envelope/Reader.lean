import SignedQueue.Text.Quoted
import SignedQueue.Markup.Lexer
import SignedQueue.Markup.Binding
import SignedQueue.Envelope.Item
/-!
**Reading the fields of an envelope.** The reader walks through the items of a document. Only the
children of the root are fields, known by their local names; every other child is passed over, and
so is what follows the root.

Of an element that is passed over only the beginning is read: its first item, and the item after
that. What follows, up to its closing tag, is neither looked into nor counted: a tag among it binds
no prefix, and a closing tag among it ends no binding.

* `FieldName`, `Fields`: the four fields, and what has been read of them;
* `Place`: where in the document the reader is;
* `Reader`: its place, the prefixes in force, and what it does with blanks;
* `Reader.step`: what one item does;
* `Envelope.Fault`: why a document is no envelope, with its wording.
-/

namespace SignedQueue.Envelope

open Markup

/-! ### Fields and faults -/

/-- A field of an envelope. -/
inductive FieldName where
  | code
  | message
  | requestId
  | hostId
  deriving Repr, DecidableEq

namespace FieldName

/-- The name of a field's element. -/
def label : FieldName → String
  | .code => "Code"
  | .message => "Message"
  | .requestId => "RequestId"
  | .hostId => "HostId"

/-- The field of an element's name. -/
def ofLabel? (name : Octets) : Option FieldName :=
  [code, message, requestId, hostId].find? fun field => name = Utf8.encode field.label

/-- Whether an element may say that the field has no value. -/
def mayBeNil : FieldName → Bool
  | .requestId | .hostId => true
  | .code | .message => false

end FieldName

/-- What has been read: a field and its value, latest first. The value is absent where the element
says that there is none. -/
abbrev Fields := List (FieldName × Option String)

/-- Why a document is no envelope. -/
inductive Fault where
  | notText (fault : Utf8.Fault)
  | markup (fault : Markup.Fault)
  | badBinding (fault : Binding.Fault)
  | badAttribute (fault : AttributeFault)
  | badReference (fault : Reference.Fault)
  | noElement
  | textBefore (text : String)
  | elementWithin (name : Octets)
  | repeatedField (field : FieldName)
  | missingField (field : FieldName)
  /-- The text of a field is parted by a declaration of the document's type, which the reader does
  not survive. -/
  | partedText
  deriving Repr, DecidableEq

/-- The wording of a fault. -/
def Fault.message : Fault → String
  | .notText fault => fault.message
  | .markup fault => fault.message
  | .badBinding fault => fault.message
  | .badAttribute fault => "error while parsing attribute: " ++ fault.message
  | .badReference fault => fault.message
  | .noElement => "unexpected `Event::Eof`"
  | .textBefore text =>
    "invalid type: string " ++ Quoted.quote text ++ ", expected struct ErrorEnvelope"
  | .elementWithin name => "unexpected `Event::Start(" ++ Binding.shown name ++ ")`"
  | .repeatedField field => "duplicate field `" ++ field.label ++ "`"
  | .missingField field => "missing field `" ++ field.label ++ "`"
  | .partedText => "internal error: entered unreachable code"

/-! ### The reader -/

/-- An opened root: its tag, and what has been read in it. -/
structure Root where
  tag : Tag
  fields : Fields
  deriving Repr, DecidableEq

/-- Where in the document a reader is. -/
inductive Place where
  | before
  | within (root : Root)
  /-- After the tag of a field that may have no value. Whether it has one is decided when the next
  item has been looked at, with the prefixes in force there. -/
  | opened (root : Root) (field : FieldName) (tag : Tag)
  /-- In a field, whose text has been read or not. -/
  | inField (root : Root) (field : FieldName) (name : Octets) (text : Option String)
  /-- At the beginning of an element that is passed over. What comes first in it is read. -/
  | entering (root : Root) (name : Octets)
  /-- In an element that is passed over, and with it the rest of `outer`. The next item is still
  looked at. -/
  | peeking (root : Root) (name : Octets) (outer : Option Octets)
  /-- In such an element, `depth` elements deep. Nothing is looked at up to its closing tag. -/
  | passing (root : Root) (name : Octets) (depth : Nat) (outer : Option Octets)
  | after (fields : Fields)
  deriving Repr, DecidableEq

/-- The attributes of the root are read, though none of them is a field. -/
def checkAttributes (tag : Tag) : Except Fault Unit :=
  match (attributes true tag).findSome? fun outcome =>
    match outcome with
    | .error fault => some fault
    | .ok _ => none
  with
  | some fault => .error (.badAttribute fault)
  | none => .ok ()

namespace Place

/-- The end of an element that is passed over: the rest of `outer` is passed over after it. -/
def leave (root : Root) : Option Octets → Place
  | some name => .peeking root name none
  | none => .within root

/-- Decides whether the field whose tag has been read has a value. A field without one is passed
over. -/
def settle (scopes : Scopes) : Place → Place
  | .opened root field tag =>
    if root.tag.isNil scopes || tag.isNil scopes then
      .entering { root with fields := (field, none) :: root.fields } tag.name
    else .inField root field tag.name none
  | place => place

/-- What a tag does that opens a child of the root. -/
def openChild (root : Root) (tag : Tag) : Except Fault Place :=
  match FieldName.ofLabel? tag.localName with
  | none => .ok (.entering root tag.name)
  | some field =>
    if (root.fields.lookup field).isSome then .error (.repeatedField field)
    else if field.mayBeNil then .ok (.opened root field tag)
    else .ok (.inField root field tag.name none)

/-- What an opening tag does. -/
def openTag (tag : Tag) : Place → Except Fault Place
  | .before => (checkAttributes tag).map fun _ => .within ⟨tag, []⟩
  | .within root => openChild root tag
  | .opened _ _ _ => .error (.elementWithin tag.name)
  | .inField _ _ _ _ => .error (.elementWithin tag.name)
  | .entering root name => .ok (.peeking root tag.name (some name))
  | .peeking root name outer => .ok (.passing root name 1 outer)
  | .passing root name depth outer => .ok (.passing root name (depth + 1) outer)
  | .after fields => .ok (.after fields)

/-- What a closing tag does. -/
def closeTag : Place → Except Fault Place
  | .before => .error (.markup (.unmatchedClose []))
  | .within root => .ok (.after root.fields)
  | .opened root field _ => .ok (.within { root with fields := (field, some "") :: root.fields })
  | .inField root field _ text =>
    .ok (.within { root with fields := (field, some (text.getD "")) :: root.fields })
  | .entering root _ => .ok (.within root)
  | .peeking root _ outer => .ok (leave root outer)
  | .passing root name (depth + 1) outer => .ok (.passing root name depth outer)
  | .passing root _ 0 outer => .ok (leave root outer)
  | .after fields => .ok (.after fields)

/-- What a text does. The references in it are looked at only where the text is read. -/
def takeText (content : Except Reference.Fault String) : Place → Except Fault Place
  | .before => do
    let text ← content.mapError .badReference
    throw (.textBefore text)
  | .within root => do
    let _ ← content.mapError .badReference
    return .within root
  | .opened root field tag => do
    let read ← content.mapError .badReference
    return .inField root field tag.name (some read)
  | .inField root field name text => do
    let read ← content.mapError .badReference
    match text with
    | none => return .inField root field name (some read)
    | some _ => throw .partedText
  | .entering root name => do
    let _ ← content.mapError .badReference
    return .peeking root name none
  | .peeking root name outer => .ok (.passing root name 0 outer)
  | place => .ok place

/-- What a declaration of the document's type does: it counts as an item that has been looked at,
and says nothing. -/
def takeDeclaration : Place → Place
  | .peeking root name outer => .passing root name 0 outer
  | place => place

/-- Whether what follows is looked into. -/
def isReading : Place → Bool
  | .passing _ _ _ _ | .after _ => false
  | _ => true

end Place

/-- A reader in a document. -/
structure Reader where
  place : Place
  /-- The bindings of the tags that have been read. Every closing tag that is read ends the
  innermost of them. -/
  scopes : Scopes
  /-- Whether the next text loses the blanks before it. It keeps them after a text that was the last
  item looked at. -/
  trimming : Bool
  deriving Repr, DecidableEq

namespace Reader

/-- A reader before a document. -/
def start : Reader :=
  ⟨.before, [], true⟩

/-- The reader after an item that it does not look into: only the nesting of elements counts. -/
def pass (reader : Reader) (item : Item) : Except Fault Reader := do
  let place ←
    match item with
    | .opening tag => reader.place.openTag tag
    | .closing => reader.place.closeTag
    | .text _ | .declaration => .ok reader.place
  return { reader with place }

/-- The reader after an item that it looks into. -/
def read (reader : Reader) : Item → Except Fault Reader
  | .opening tag => do
    let bindings ← (Binding.ofTag tag).mapError .badBinding
    let scopes := bindings :: reader.scopes
    let place ← (reader.place.settle scopes).openTag tag
    return ⟨place, scopes, true⟩
  | .closing => do
    let place ← (reader.place.settle reader.scopes).closeTag
    return ⟨place, reader.scopes.tail, true⟩
  | .text pieces =>
    match Piece.trimmed reader.trimming pieces with
    | [] => .ok reader
    | left => do
      let place ← (reader.place.settle reader.scopes).takeText (Piece.meanings left)
      return ⟨place, reader.scopes, false⟩
  | .declaration =>
    .ok ⟨(reader.place.settle reader.scopes).takeDeclaration, reader.scopes, true⟩

/-- The reader after one more item. -/
def step (reader : Reader) (item : Item) : Except Fault Reader :=
  if reader.place.isReading then reader.read item else reader.pass item

/-- What has been read when the document ends, possibly with a fault. -/
def finish (reader : Reader) (fault : Option Markup.Fault) : Except Fault Fields :=
  let unclosed (name : Octets) := Fault.markup (fault.getD (.unclosedElement name))
  match reader.place with
  | .before => .error ((fault.map Fault.markup).getD .noElement)
  | .within root => .error (unclosed root.tag.name)
  | .opened _ _ tag => .error (unclosed tag.name)
  | .inField _ _ name _ => .error (unclosed name)
  | .entering _ name => .error (unclosed name)
  | .peeking _ name _ => .error (unclosed name)
  | .passing _ name _ _ => .error (unclosed name)
  | .after fields => .ok fields

end Reader

/-- The fields of a document that is a text. -/
def readFields (document : Octets) : Except Fault Fields := do
  let scan := Markup.scan document
  let reader ← (Item.ofEvents scan.events).foldlM Reader.step .start
  reader.finish scan.fault

end SignedQueue.Envelope

import SignedQueue.Text.Utf8
/-!
**What a document consists of.** Read from left to right, a document is a sequence of events: tags
that open and close elements, and the text between them.

* `Markup.Tag`: what stands between the angle brackets of an opening tag, its `name` and
  `localName`;
* `Markup.Event`: one piece of a document;
* `Markup.Fault`: why a document cannot be read on, with its wording.
-/

namespace SignedQueue.Markup

/-! ### Blanks -/

/-- The four octets that count as white space: space, tab, carriage return and line feed. -/
def isBlank (octet : UInt8) : Bool :=
  octet = 32 || octet = 9 || octet = 13 || octet = 10

/-- Octets without the blanks before them. -/
def trimStart (octets : Octets) : Octets :=
  octets.dropWhile isBlank

/-- Octets without the blanks after them. -/
def trimEnd (octets : Octets) : Octets :=
  (octets.reverse.dropWhile isBlank).reverse

/-- Octets without the blanks on either side. -/
def trim (octets : Octets) : Octets :=
  trimEnd (trimStart octets)

/-! ### Tags and events -/

/-- A name without its namespace prefix, which the first colon ends. -/
def localPart (name : Octets) : Octets :=
  if name.contains 58 then (name.dropWhile (· ≠ 58)).drop 1 else name

/-- What stands between the angle brackets of an opening tag: a name and attributes. -/
structure Tag where
  content : Octets
  deriving Repr, DecidableEq

/-- The name of a tag, up to the first blank. -/
def Tag.name (tag : Tag) : Octets :=
  tag.content.takeWhile fun octet => !isBlank octet

/-- The name of a tag without its namespace prefix. -/
def Tag.localName (tag : Tag) : Octets :=
  localPart tag.name

/-- One piece of a document. -/
inductive Event where
  /-- The tag that opens an element. -/
  | start (tag : Tag)
  /-- The tag of an element without content. -/
  | empty (tag : Tag)
  /-- The tag that closes the innermost open element. -/
  | close (name : Octets)
  /-- Text up to the next tag, with its entity references unresolved. -/
  | text (raw : Octets)
  /-- Text that is taken as it stands. -/
  | cdata (raw : Octets)
  | doctype
  /-- A comment, a processing instruction or the declaration of the document's form. -/
  | other
  deriving Repr, DecidableEq

/-- An event with the blanks around its text left out; a text of blanks alone is no event. -/
def Event.trimmed : Event → Option Event
  | .text raw => if trim raw = [] then none else some (.text (trim raw))
  | event => some event

/-! ### Faults -/

/-- Why a document cannot be read on. -/
inductive Fault where
  | unknownMarkup
  | unclosedCdata
  | unclosedComment
  | unclosedDoctype
  | namelessDoctype
  | unclosedInstruction
  | unclosedTag
  | mismatchedClose (expected found : Octets)
  | unmatchedClose (found : Octets)
  | unclosedElement (name : Octets)
  deriving Repr, DecidableEq

/-- A name as a message shows it; one that is no text is left out. -/
def shownName (name : Octets) : String :=
  (Utf8.decode name).toOption.getD ""

/-- The wording of a fault. -/
def Fault.message : Fault → String
  | .unknownMarkup => "syntax error: unknown or missed symbol in markup"
  | .unclosedCdata => "syntax error: CDATA not closed: `]]>` not found before end of input"
  | .unclosedComment => "syntax error: comment not closed: `-->` not found before end of input"
  | .unclosedDoctype => "syntax error: DOCTYPE not closed: `>` not found before end of input"
  | .namelessDoctype =>
    "ill-formed document: `<!DOCTYPE>` declaration does not contain a name of a document type"
  | .unclosedInstruction =>
    "syntax error: processing instruction or xml declaration not closed: `?>` not found before " ++
      "end of input"
  | .unclosedTag => "syntax error: tag not closed: `>` not found before end of input"
  | .mismatchedClose expected found =>
    "ill-formed document: expected `</" ++ shownName expected ++ ">`, but `</" ++
      shownName found ++ ">` was found"
  | .unmatchedClose found =>
    "ill-formed document: close tag `</" ++ shownName found ++ ">` does not match any open tag"
  | .unclosedElement name =>
    "ill-formed document: start tag not closed: `</" ++ shownName name ++
      ">` not found before end of input"

end SignedQueue.Markup

import SignedQueue.Markup.Event
import SignedQueue.Markup.Reference
/-!
**A document for a reader of fields.** Text and verbatim text that follow one another, with nothing
but comments and instructions between them, are one text. Only its outer ends lose their blanks, and
only where they are plain.

* `Item`: an opening tag, a closing tag, a whole text, or a declaration of the document's type;
* `Item.ofEvents`: the items of a document;
* `Piece.trimmed`: a text without the blanks at its ends, and `Piece.meanings`: what it says.
-/

namespace SignedQueue.Envelope

open Markup

/-- A piece of a text. -/
inductive Piece where
  /-- Text with references. -/
  | plain (raw : Octets)
  /-- Text that is taken as it stands. -/
  | verbatim (raw : Octets)
  deriving Repr, DecidableEq

namespace Piece

/-- Pieces without the plain blanks before them. -/
def trimStart : List Piece → List Piece
  | .plain raw :: rest =>
    if Markup.trimStart raw = [] then trimStart rest else .plain (Markup.trimStart raw) :: rest
  | pieces => pieces

/-- Pieces of which the last one, if it is plain, has no blanks after it. -/
def trimEnd : List Piece → List Piece
  | [] => []
  | [.plain raw] => [.plain (Markup.trimEnd raw)]
  | piece :: rest => piece :: trimEnd rest

/-- Pieces without the plain blanks after them and, if `atStart`, before them. -/
def trimmed (atStart : Bool) (pieces : List Piece) : List Piece :=
  trimEnd (if atStart then trimStart pieces else pieces)

/-- What a piece says. -/
def meaning : Piece → Except Reference.Fault (List Char)
  | .plain raw => Reference.resolve (Utf8.lossyChars raw)
  | .verbatim raw => .ok (Utf8.lossyChars raw)

/-- What pieces say together; the first fault counts. -/
def meanings (pieces : List Piece) : Except Reference.Fault String :=
  (pieces.mapM meaning).map fun texts => String.ofList texts.flatten

end Piece

/-- A part of a document for a reader of fields. -/
inductive Item where
  | opening (tag : Tag)
  | closing
  /-- A whole text, piece by piece, with the blanks around it. -/
  | text (pieces : List Piece)
  /-- A declaration of the document's type. -/
  | declaration
  deriving Repr, DecidableEq

/-- The text that pieces make, if there are any. -/
def Item.ofPieces (pieces : List Piece) : List Item :=
  if pieces = [] then [] else [.text pieces]

/-- The items of a document, when `pieces` is the text read so far. -/
def Item.ofEventsAfter (pieces : List Piece) : List Event → List Item
  | [] => ofPieces pieces
  | .text raw :: rest => ofEventsAfter (pieces ++ [.plain raw]) rest
  | .cdata raw :: rest => ofEventsAfter (pieces ++ [.verbatim raw]) rest
  | .other :: rest => ofEventsAfter pieces rest
  | .doctype :: rest => ofPieces pieces ++ .declaration :: ofEventsAfter [] rest
  | .start tag :: rest => ofPieces pieces ++ .opening tag :: ofEventsAfter [] rest
  | .empty tag :: rest => ofPieces pieces ++ .opening tag :: .closing :: ofEventsAfter [] rest
  | .close _ :: rest => ofPieces pieces ++ .closing :: ofEventsAfter [] rest

/-- The items of a document. -/
def Item.ofEvents (events : List Event) : List Item :=
  ofEventsAfter [] events

end SignedQueue.Envelope

import SignedQueue.Text.Quoted
import SignedQueue.CallError
import SignedQueue.Text.Base64
import SignedQueue.Text.Numeral
/-!
**Elements.** A document that has been read is a tree of elements, each with a name, the text
directly in it, and its children in order.

* `Element.find?`: the first descendant with a name, in the order of the document;
* `Element.descendants`: all descendants in that order;
* `Element.textOr`, `Element.require`, `Element.valueOr`, `Element.binary`: what the first
  descendant with a name says, as a text, a required text, a value or octets.
-/

namespace SignedQueue.Markup

/-- An element of a document. -/
inductive Element where
  | mk (name text : String) (children : List Element)
  deriving Repr

namespace Element

/-- The name of an element without its namespace prefix. -/
def name : Element → String
  | mk name _ _ => name

/-- The text directly in an element. -/
def text : Element → String
  | mk _ text _ => text

/-- The children of an element, in order. -/
def children : Element → List Element
  | mk _ _ children => children

/-- An element without text and children. -/
def named (name : String) : Element :=
  mk name "" []

/-- The element with more text at its end. -/
def addText : Element → String → Element
  | mk name text children, more => mk name (text ++ more) children

/-- The element with one more child at its end. -/
def addChild : Element → Element → Element
  | mk name text children, child => mk name text (children ++ [child])

/-! ### Looking up -/

/-- The children with a name, in order. -/
def childrenNamed (element : Element) (name : String) : List Element :=
  element.children.filter (·.name = name)

mutual

/-- All descendants of an element in the order of the document, without the element. -/
def descendants : Element → List Element
  | mk _ _ children => forest children

/-- Some elements in the order of the document, each followed by its descendants. -/
def forest : List Element → List Element
  | [] => []
  | element :: rest => element :: (descendants element ++ forest rest)

end

mutual

/-- The first descendant with a name, in the order of the document. -/
def find? (wanted : String) : Element → Option Element
  | mk _ _ children => findAmong wanted children

/-- The first of some elements and their descendants with a name. -/
def findAmong (wanted : String) : List Element → Option Element
  | [] => none
  | element :: rest =>
    if element.name = wanted then some element
    else
      match find? wanted element with
      | some found => some found
      | none => findAmong wanted rest

end

/-- The text of the first descendant with a name, or a default. -/
def textOr (element : Element) (name : String) (default : Option String) : Option String :=
  ((element.find? name).map text).or default

/-! ### Reading values -/

/-- Why an element does not say what is asked of it. -/
inductive Shortfall where
  | missing (name within : String)
  | badValue (name value reason : String)
  | badBase64 (fault : Base64.Fault)
  deriving Repr, DecidableEq

/-- A shortfall as an error of the call: the response cannot be read. -/
def Shortfall.toCallError : Shortfall → CallError
  | .missing name within =>
    { kind := .responseUnparsable
      message := "required element <" ++ name ++ "> is missing in <" ++ within ++ ">" }
  | .badValue name value reason =>
    { kind := .responseUnparsable
      message :=
        "element <" ++ name ++ "> has invalid value " ++ Quoted.quote value ++ ": " ++ reason }
  | .badBase64 fault =>
    { kind := .responseUnparsable
      message := "base64 decode failed"
      source := some fault.message }

/-- The text of the first descendant with a name. -/
def require (element : Element) (name : String) : Except Shortfall String :=
  match element.find? name with
  | some found => .ok found.text
  | none => .error (.missing name element.name)

/-- The value that the first descendant with a name shows, or a default if there is none. A text
that is no such value is never replaced by the default. -/
def valueOr {α : Type} (element : Element) (name : String) (default : Option α)
    (read : String → Except String α) : Except Shortfall (Option α) :=
  match element.find? name with
  | none => .ok default
  | some found =>
    match read found.text with
    | .ok value => .ok (some value)
    | .error reason => .error (.badValue name found.text reason)

/-- The octets that a text of Base64 stands for. -/
def decodeBase64 (text : String) : Except Shortfall Octets :=
  (Base64.decode text).mapError .badBase64

/-- The octets that the first descendant with a name shows in Base64, if there is one. -/
def binary (element : Element) (name : String) : Except Shortfall (Option Octets) :=
  match element.find? name with
  | none => .ok none
  | some found => (decodeBase64 found.text).map some

/-- Reads an unsigned number of 64 bits. -/
def readUInt64 (text : String) : Except String UInt64 :=
  (Numeral.readUInt64 text).mapError Numeral.Fault.message

/-- Reads an unsigned number of 32 bits. -/
def readUInt32 (text : String) : Except String UInt32 :=
  (Numeral.readUInt32 text).mapError Numeral.Fault.message

/-- Reads a signed number of 64 bits. -/
def readInt64 (text : String) : Except String Int64 :=
  (Numeral.readInt64 text).mapError Numeral.Fault.message

/-- Reads a truth value. -/
def readBool (text : String) : Except String Bool :=
  match Numeral.readBool text with
  | some value => .ok value
  | none => .error Numeral.notBool

end Element

end SignedQueue.Markup

import SignedQueue.Text.Base64
import SignedQueue.Markup.Reference
/-!
**Writing a document.** An entity travels as a root element with one child for each of its values
that is set; a child has a name and a text, and no children.

* `Field.text`, `Field.binary`: a value of an entity, which may be absent;
* `Document.write`: the text of a document.
-/

namespace SignedQueue.Markup

/-- A value of an entity. -/
structure Field where
  name : String
  /-- The text that is written; without it the field is left out. -/
  value : Option String
  deriving Repr, DecidableEq

namespace Field

/-- A field with a text, or a default if the text is absent. -/
def text (name : String) (value : Option String) (default : Option String := none) : Field :=
  ⟨name, value.or default⟩

/-- A field with octets, which are written in Base64. -/
def binary (name : String) (value : Option Octets) : Field :=
  ⟨name, value.map Base64.encode⟩

/-- A field as it is written. -/
def write (field : Field) : String :=
  match field.value with
  | none => ""
  | some value =>
    "<" ++ field.name ++ ">" ++ Reference.escape value ++ "</" ++ field.name ++ ">"

end Field

namespace Document

/-- The namespace of the service's documents. -/
def namespaceName : String :=
  "http://mns.aliyuncs.com/doc/v1/"

/-- What every document begins with. -/
def declaration : String :=
  "<?xml version=\"1.0\" encoding=\"UTF-8\"?>"

/-- The text of a document with a root element and its fields, in order. -/
def write (root : String) (fields : List Field) : String :=
  declaration ++ "<" ++ root ++ " xmlns=\"" ++ namespaceName ++ "\">" ++
    String.join (fields.map Field.write) ++ "</" ++ root ++ ">"

end Document

end SignedQueue.Markup

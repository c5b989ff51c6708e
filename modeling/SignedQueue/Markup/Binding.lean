import SignedQueue.Markup.Attribute
/-!
**Namespaces.** An attribute `xmlns:p="name"` binds the prefix `p` to a namespace for the tag's
element and all within it. Two prefixes are reserved.

* `Binding.ofTag`: the bindings that a tag makes;
* `Binding.lookup?`: the namespace that a prefix stands for;
* `Scopes`: the bindings of several tags, one within the other;
* `Binding.Fault`: a binding that touches a reserved prefix or namespace, with its wording.
-/

namespace SignedQueue.Markup

/-- A prefix and the namespace it is bound to. -/
structure Binding where
  /-- The prefix, empty for names without one. -/
  label : Octets
  space : Octets
  deriving Repr, DecidableEq

namespace Binding

/-- Octets in a message: what is no printable ASCII character is shown by its number. -/
def shown (octets : Octets) : String :=
  let showOctet (octet : UInt8) : List Char :=
    if octet = 34 then ['\\', '"']
    else if 32 ≤ octet ∧ octet ≤ 126 then [Char.ofNat octet.toNat]
    else ['0', 'x'] ++ (Nat.toDigits 16 octet.toNat).map Char.toUpper
  "\"" ++ String.ofList (octets.flatMap showOctet) ++ "\""

/-- A binding that is not allowed. -/
inductive Fault where
  /-- The prefix `xml` has a namespace of its own and no other. -/
  | xmlPrefix (space : Octets)
  /-- The prefix `xmlns` cannot be bound. -/
  | xmlnsPrefix (space : Octets)
  /-- The namespace of `xml` belongs to no other prefix. -/
  | xmlSpace (label : Octets)
  /-- The namespace of `xmlns` belongs to no other prefix. -/
  | xmlnsSpace (label : Octets)
  deriving Repr, DecidableEq

/-- The namespace of the prefix `xml`. -/
def xmlName : String := "http://www.w3.org/XML/1998/namespace"

/-- The namespace of the prefix `xmlns`. -/
def xmlnsName : String := "http://www.w3.org/2000/xmlns/"

/-- The wording of a fault. -/
def Fault.message : Fault → String
  | .xmlPrefix space => "the namespace prefix 'xml' cannot be bound to '" ++ shown space ++ "'"
  | .xmlnsPrefix space => "the namespace prefix 'xmlns' cannot be bound to '" ++ shown space ++ "'"
  | .xmlSpace label =>
    "the namespace prefix '" ++ shown label ++ "' cannot be bound to '" ++ xmlName ++ "'"
  | .xmlnsSpace label =>
    "the namespace prefix '" ++ shown label ++ "' cannot be bound to '" ++ xmlnsName ++ "'"

/-- The prefix that an attribute with the given key binds. -/
def labelOf? (key : Octets) : Option Octets :=
  let mark := Utf8.encode "xmlns"
  if key = mark then some []
  else if (mark ++ [58]).isPrefixOf key then some (key.drop 6)
  else none

/-- The binding that an attribute makes, if it makes one. -/
def ofAttribute (pair : Attribute) : Except Fault (Option Binding) :=
  match labelOf? pair.key with
  | none => .ok none
  | some label =>
    let space := pair.value
    if pair.key = Utf8.encode "xmlns" then .ok (some ⟨[], space⟩)
    else if label = Utf8.encode "xml" then
      if space = Utf8.encode xmlName then .ok none else .error (.xmlPrefix space)
    else if label = Utf8.encode "xmlns" then .error (.xmlnsPrefix space)
    else if space = Utf8.encode xmlName then .error (.xmlSpace label)
    else if space = Utf8.encode xmlnsName then .error (.xmlnsSpace label)
    else .ok (some ⟨label, space⟩)

/-- The bindings of a tag's attributes up to the first faulty one, the latest first. -/
def ofAttributes (latest : List Binding) :
    List (Except AttributeFault Attribute) → Except Fault (List Binding)
  | .ok pair :: rest => do
    let binding ← ofAttribute pair
    ofAttributes (binding.toList ++ latest) rest
  | _ => .ok latest

/-- The bindings that a tag makes, the latest first. -/
def ofTag (tag : Tag) : Except Fault (List Binding) :=
  ofAttributes [] (attributes false tag)

/-- The namespace that a prefix stands for, when the latest bindings come first. A prefix bound to
nothing stands for none. -/
def lookup? (bindings : List Binding) (label : Octets) : Option Octets :=
  match bindings.find? (·.label = label) with
  | some binding => if label = [] ∨ binding.space = [] then none else some binding.space
  | none => none

end Binding

/-- The bindings in force, tag by tag, those of the innermost tag first. -/
abbrev Scopes := List (List Binding)

/-- The namespace that a prefix stands for: the innermost tag that binds it decides. -/
def Scopes.lookup? (scopes : Scopes) (label : Octets) : Option Octets :=
  Binding.lookup? scopes.flatten label

/-- The namespace of the mark `nil`. -/
def instanceName : String := "http://www.w3.org/2001/XMLSchema-instance"

/-- Whether a tag says that its element has no value: an attribute `nil` of that namespace is
`true`. -/
def Tag.isNil (tag : Tag) (scopes : Scopes) : Bool :=
  (attributes true tag).any fun outcome =>
    match outcome with
    | .error _ => false
    | .ok pair =>
      pair.key.contains 58 && localPart pair.key = Utf8.encode "nil" &&
        scopes.lookup? (pair.key.takeWhile (· ≠ 58)) = some (Utf8.encode instanceName) &&
        (pair.value = Utf8.encode "true" || pair.value = Utf8.encode "1")

end SignedQueue.Markup

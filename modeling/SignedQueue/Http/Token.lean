import SignedQueue.Text.Utf8
/-!
**Names and values in a request.** A method and the name of a header are tokens; the value of a
header is any octets without controls.

* `Http.isToken`: whether a text is a token;
* `Http.isHeaderName`, `Http.isHeaderValue`: whether a text may name a header, and be its value;
* `Method`: the method of a request, which is a token.
-/

namespace SignedQueue

namespace Http

/-- A character of a token: a letter, a figure or one of fifteen marks. -/
def isTokenChar (character : Char) : Bool :=
  character.isAlphanum || "!#$%&'*+-.^_`|~".toList.contains character

/-- A token has one or more such characters. -/
def isToken (text : String) : Bool :=
  !text.toList.isEmpty && text.toList.all isTokenChar

/-- The longest name of a header. -/
def maxNameLength : Nat := 65535

/-- Whether a text may name a header. -/
def isHeaderName (name : String) : Bool :=
  isToken name && name.toList.length ≤ maxNameLength

/-- Whether a text may be the value of a header: it holds no control but the tab. -/
def isHeaderValue (value : String) : Bool :=
  value.toList.all fun character =>
    character = '\t' || (32 ≤ character.toNat && character.toNat ≠ 127)

/-- The text of a header's value that consists of printable ASCII characters and tabs; any other
value has no text. -/
def visibleText (value : Octets) : Option String :=
  if value.all fun octet => octet = 9 || (32 ≤ octet && octet < 127) then
    some (String.ofList (value.map fun octet => Char.ofNat octet.toNat))
  else none

end Http

/-- The method of a request. -/
structure Method where
  name : String
  isToken : Http.isToken name = true
  deriving DecidableEq

namespace Method

/-- The method with a name, if the name is a token. -/
def ofName? (name : String) : Option Method :=
  if valid : Http.isToken name = true then some ⟨name, valid⟩ else none

/-- Asks for what there is. -/
def get : Method := ⟨"GET", by decide⟩

/-- Hands something in. -/
def post : Method := ⟨"POST", by decide⟩

/-- Sets what there is. -/
def put : Method := ⟨"PUT", by decide⟩

/-- Takes something away. -/
def delete : Method := ⟨"DELETE", by decide⟩

end Method

end SignedQueue

/-!
**Where a request goes.** The address of a request has a scheme and an authority, or neither, then a
path and possibly a query. What follows a `#` is no part of it.

* `Target.parse`: the target that a text shows, or why it shows none;
* `Target.text`: a target as it is written;
* `Target.pathAndQuery`: the part of it that the host sees.
-/

namespace SignedQueue

/-- Where a request goes. -/
structure Target where
  scheme : Option String
  authority : Option String
  path : String
  query : Option String
  deriving Repr, DecidableEq

namespace Target

/-- Why a text is no target. -/
inductive Fault where
  | tooLong
  /-- There is nothing, or nothing after the scheme. -/
  | empty
  | schemeTooLong
  | badCharacter
  | badAuthority
  /-- A path without an authority, or the other way round. -/
  | badFormat
  deriving Repr, DecidableEq

/-- The wording of a fault. -/
def Fault.message : Fault → String
  | .tooLong => "uri too long"
  | .empty => "empty string"
  | .schemeTooLong => "scheme too long"
  | .badCharacter => "invalid uri character"
  | .badAuthority => "invalid authority"
  | .badFormat => "invalid format"

/-! ### Parts of a target -/

/-- The most octets of a target. -/
def maxLength : Nat := 65534

/-- The most characters of a scheme. -/
def maxSchemeLength : Nat := 64

/-- The most colons in a host, which an address of eight parts and a port need. -/
def maxColons : Nat := 8

/-- A character of a scheme. -/
def isSchemeChar (character : Char) : Bool :=
  character.isAlphanum || "+-.~".toList.contains character

/-- A character of an authority, apart from the ones that part it. -/
def isAuthorityChar (character : Char) : Bool :=
  character.isAlphanum || "!$&'()*+,-.;=_~".toList.contains character

/-- A character that ends an authority. -/
def endsAuthority (character : Char) : Bool :=
  character = '/' || character = '?' || character = '#'

/-- A character of a path. -/
def isPathChar (character : Char) : Bool :=
  let code := character.toNat
  code = 0x21 || code = 0x22 || (0x24 ≤ code && code ≤ 0x3B) || code = 0x3D ||
    (0x40 ≤ code && code ≤ 0x5F) || (0x61 ≤ code && code ≤ 0x7E) || 0x80 ≤ code

/-- A character of a query. -/
def isQueryChar (character : Char) : Bool :=
  let code := character.toNat
  code = 0x21 || (0x24 ≤ code && code ≤ 0x3B) || code = 0x3D || (0x3F ≤ code && code ≤ 0x7E) ||
    0x80 ≤ code

/-- The scheme before `://`, and what follows. The two usual schemes are written in lower case,
others stay as they are. -/
def splitScheme (characters : List Char) : Except Fault (Option String × List Char) :=
  let lower (count : Nat) := (characters.take count).map Char.toLower
  if lower 7 = "http://".toList then .ok (some "http", characters.drop 7)
  else if lower 8 = "https://".toList then .ok (some "https", characters.drop 8)
  else
    let scheme := characters.takeWhile isSchemeChar
    let after := characters.drop scheme.length
    if 3 < characters.length ∧ "://".toList.isPrefixOf after then
      if maxSchemeLength < scheme.length then .error .schemeTooLong
      else .ok (some (String.ofList scheme), after.drop 3)
    else .ok (none, characters)

/-- What has been seen of an authority. -/
structure Seen where
  /-- Colons since the last character that starts a part anew. -/
  colons : Nat := 0
  opened : Bool := false
  closed : Bool := false
  /-- A percent sign since the last character that starts a part anew. -/
  percent : Bool := false

/-- What has been seen after one more character. The user before `@`, and the address in brackets,
may hold what the rest of the authority may not. -/
def Seen.step (seen : Seen) (character : Char) : Except Fault Seen :=
  if character = ':' then
    if maxColons ≤ seen.colons then .error .badAuthority
    else .ok { seen with colons := seen.colons + 1 }
  else if character = '[' then
    if seen.percent || seen.opened then .error .badAuthority else .ok { seen with opened := true }
  else if character = ']' then
    if !seen.opened || seen.closed then .error .badAuthority
    else .ok { seen with closed := true, colons := 0, percent := false }
  else if character = '@' then .ok { seen with colons := 0, percent := false }
  else if character = '%' then .ok { seen with percent := true }
  else if isAuthorityChar character then .ok seen
  else .error .badCharacter

/-- The authority that characters make, which may be none. -/
def checkAuthority (authority : List Char) : Except Fault Unit := do
  let seen ← authority.foldlM Seen.step {}
  if seen.opened ≠ seen.closed ∨ 1 < seen.colons ∨ authority.getLast? = some '@' ∨ seen.percent then
    throw .badAuthority

/-- The authority up to the path, and what follows it. -/
def splitAuthority (characters : List Char) : Except Fault (List Char × List Char) := do
  let authority := characters.takeWhile fun character => !endsAuthority character
  checkAuthority authority
  return (authority, characters.drop authority.length)

/-- The query up to a `#`. -/
def readQuery (characters : List Char) : Except Fault String :=
  let query := characters.takeWhile (· ≠ '#')
  if query.all isQueryChar then .ok (String.ofList query) else .error .badCharacter

/-- The path up to a `?` or `#`, and the query after a `?`. -/
def readPath (characters : List Char) : Except Fault (String × Option String) := do
  let path := characters.takeWhile fun character => character ≠ '?' && character ≠ '#'
  if !path.all isPathChar then throw .badCharacter
  match characters.drop path.length with
  | '?' :: rest => return (String.ofList path, some (← readQuery rest))
  | _ => return (String.ofList path, none)

/-! ### The whole target -/

/-- The target that characters show which do not begin with a slash. -/
def parseFull (characters : List Char) : Except Fault Target := do
  let (scheme, rest) ← splitScheme characters
  match scheme with
  | none =>
    let (authority, after) ← splitAuthority rest
    if after ≠ [] then throw (if characters.length = 1 then .badCharacter else .badFormat)
    return ⟨none, some (String.ofList authority), "", none⟩
  | some scheme =>
    if rest = [] then throw .empty
    let (authority, after) ← splitAuthority rest
    if authority = [] then throw .badFormat
    let (path, query) ← readPath after
    return ⟨some scheme, some (String.ofList authority), path, query⟩

/-- The target that a text shows. -/
def parse (text : String) : Except Fault Target :=
  if maxLength < text.utf8ByteSize then .error .tooLong
  else
    match text.toList with
    | [] => .error .empty
    | '/' :: rest => (readPath ('/' :: rest)).map fun (path, query) => ⟨none, none, path, query⟩
    | ['*'] => .ok ⟨none, none, "*", none⟩
    | characters => parseFull characters

/-- The path and the query; an empty path is written as a slash. -/
def pathAndQuery (target : Target) : String :=
  let path := if target.path = "" then "/" else target.path
  match target.query with
  | none => path
  | some query => path ++ "?" ++ query

/-- A target as it is written. An authority alone is written without a path. -/
def text (target : Target) : String :=
  let authority := target.authority.getD ""
  match target.scheme with
  | some scheme => scheme ++ "://" ++ authority ++ target.pathAndQuery
  | none =>
    match target.authority with
    | some authority => authority
    | none => target.pathAndQuery

end Target

end SignedQueue

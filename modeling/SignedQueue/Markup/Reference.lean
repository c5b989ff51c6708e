import SignedQueue.Text.Numeral
/-!
**Entity references.** Five characters have a meaning of their own in a document and are written by
name, such as `&lt;`; any character can be written by its number, such as `&#10;` or `&#xA;`.

* `Reference.escape`: a text with the five characters written by name;
* `Reference.resolve`: a text with its references replaced by what they stand for;
* `Reference.Fault`: why a reference stands for nothing, with its wording.
-/

namespace SignedQueue.Markup.Reference

/-! ### Writing -/

/-- A character as it stands in a document. -/
def escapeChar : Char → List Char
  | '<' => ['&', 'l', 't', ';']
  | '>' => ['&', 'g', 't', ';']
  | '&' => ['&', 'a', 'm', 'p', ';']
  | '\'' => ['&', 'a', 'p', 'o', 's', ';']
  | '"' => ['&', 'q', 'u', 'o', 't', ';']
  | other => [other]

/-- A text as it stands in a document. -/
def escape (text : String) : String :=
  String.ofList (text.toList.flatMap escapeChar)

/-! ### Reading -/

/-- Why a reference stands for nothing. Places are counted in octets. -/
inductive Fault where
  /-- A name that is not one of the five. -/
  | unknownName (first last : Nat) (name : String)
  /-- No semicolon follows, up to the next ampersand. -/
  | unterminated (first last : Nat)
  | signedNumber
  | badNumber (fault : Numeral.Fault)
  | noCharacter (code : Nat)
  | forbidden (code : Nat)
  deriving Repr, DecidableEq

/-- The wording of a fault. -/
def Fault.message : Fault → String
  | .unknownName first last name => s!"at {first}..{last}: unrecognized entity `" ++ name ++ "`"
  | .unterminated first last =>
    s!"Error while escaping character at range {first}..{last}: Cannot find ';' after '&'"
  | .signedNumber => "invalid character reference: unexpected number sign"
  | .badNumber fault => "invalid character reference: " ++ fault.message
  | .noCharacter code => s!"invalid character reference: `{code}` is not a valid codepoint"
  | .forbidden code =>
    "invalid character reference: 0x" ++ String.ofList (Nat.toDigits 16 code) ++
      " character is not permitted in XML"

/-- The number of octets of some characters. -/
def octetCount : List Char → Nat
  | [] => 0
  | character :: rest => character.utf8Size + octetCount rest

/-- The characters up to the first semicolon, and what follows it. An ampersand may not come
before. -/
def untilSemicolon : List Char → Option (List Char × List Char)
  | [] => none
  | character :: rest =>
    if character = ';' then some ([], rest)
    else if character = '&' then none
    else (untilSemicolon rest).map fun (name, after) => (character :: name, after)

/-- The character with a number written in digits of a radix. -/
def numbered (radix : Nat) (digits : List Char) : Except Fault Char :=
  match digits with
  | '+' :: _ | '-' :: _ => .error .signedNumber
  | _ =>
    match Numeral.magnitude radix (UInt32.size - 1) .tooLarge digits with
    | .error fault => .error (.badNumber fault)
    | .ok code =>
      if code = 0 then .error (.forbidden code)
      else if code.isValidChar then .ok (Char.ofNat code)
      else .error (.noCharacter code)

/-- The character that one of the five names stands for. -/
def named : List Char → Option Char
  | ['l', 't'] => some '<'
  | ['g', 't'] => some '>'
  | ['a', 'm', 'p'] => some '&'
  | ['a', 'p', 'o', 's'] => some '\''
  | ['q', 'u', 'o', 't'] => some '"'
  | _ => none

/-- The character that a reference stands for. It is known by what stands between the ampersand,
which ends at the octet `first`, and the semicolon. -/
def meaning (first : Nat) (reference : List Char) : Except Fault Char :=
  match reference with
  | '#' :: 'x' :: digits => numbered 16 digits
  | '#' :: digits => numbered 10 digits
  | name =>
    match named name with
    | some character => .ok character
    | none => .error (.unknownName first (first + octetCount name) (String.ofList name))

theorem untilSemicolon_length {characters name after : List Char}
    (found : untilSemicolon characters = some (name, after)) :
    after.length ≤ characters.length := by
  induction characters generalizing name with
  | nil => simp [untilSemicolon] at found
  | cons character rest ih =>
    simp only [untilSemicolon] at found
    split at found
    · injection found with same
      injection same with _ same
      subst same
      simp
    · split at found
      · simp at found
      · simp only [Option.map_eq_some_iff, Prod.mk.injEq, Prod.exists] at found
        obtain ⟨_, _, inner, _, rfl⟩ := found
        exact Nat.le_succ_of_le (ih inner)

/-- The characters of a text whose first one stands at the octet `place` and whose last one ends at
the octet `last`, with references replaced. -/
def resolveFrom (place last : Nat) (characters : List Char) : Except Fault (List Char) :=
  match characters with
  | [] => .ok []
  | character :: rest =>
    if character = '&' then
      match found : untilSemicolon rest with
      | none => .error (.unterminated place last)
      | some (reference, after) =>
        match meaning (place + 1) reference with
        | .error fault => .error fault
        | .ok meant =>
          have := untilSemicolon_length found
          (resolveFrom (place + octetCount reference + 2) last after).map (meant :: ·)
    else (resolveFrom (place + character.utf8Size) last rest).map (character :: ·)
termination_by characters.length

/-- The characters of a text with its references replaced by what they stand for. -/
def resolve (characters : List Char) : Except Fault (List Char) :=
  resolveFrom 0 (octetCount characters) characters

end SignedQueue.Markup.Reference

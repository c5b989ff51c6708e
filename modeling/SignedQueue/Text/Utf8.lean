/-!
**Text as octets, and octets as text.**

A body, a header value and a document travel as octets; what the library reads in them is text.

* `Utf8.encode`: the octets of a text, character by character (`encodeChar`);
* `Utf8.next`: what begins at the head of a sequence of octets: a character, an ill-formed start of
  one to three octets, or a character that the end cuts short;
* `Utf8.decode`: the text of well-formed octets, or where and how they are ill-formed;
* `Utf8.lossy`: the text of any octets, one replacement character for each ill-formed start.
-/

namespace SignedQueue

/-- A sequence of octets: a body, a header value or a document as it travels. -/
abbrev Octets := List UInt8

namespace Utf8

/-! ### Writing -/

/-- The one to four octets of a character. -/
def encodeChar (character : Char) : Octets :=
  let code := character.toNat
  if code < 0x80 then [UInt8.ofNat code]
  else if code < 0x800 then [UInt8.ofNat (0xC0 + code / 64), UInt8.ofNat (0x80 + code % 64)]
  else if code < 0x10000 then
    [UInt8.ofNat (0xE0 + code / 4096), UInt8.ofNat (0x80 + code / 64 % 64),
      UInt8.ofNat (0x80 + code % 64)]
  else
    [UInt8.ofNat (0xF0 + code / 262144), UInt8.ofNat (0x80 + code / 4096 % 64),
      UInt8.ofNat (0x80 + code / 64 % 64), UInt8.ofNat (0x80 + code % 64)]

/-- The octets of a text. -/
def encode (text : String) : Octets :=
  text.toList.flatMap encodeChar

/-! ### Reading one character -/

/-- What begins at the head of a sequence of octets. -/
inductive Reading where
  | done
  /-- A character, and what follows it. -/
  | char (character : Char) (rest : Octets)
  /-- Octets, `length` of them, that begin no character, and what follows them. -/
  | invalid (length : Nat) (rest : Octets)
  /-- The beginning of a character that the end of the octets cuts short. -/
  | incomplete
  deriving Repr, DecidableEq

/-- Reads `more` further octets of a character whose `seen` octets so far give `code`. The first of
them lies between `low` and `high`, every later one between `0x80` and `0xBF`. -/
def continued (code seen : Nat) (low high : UInt8) : Nat → Octets → Reading
  | 0, rest => .char (Char.ofNat code) rest
  | _ + 1, [] => .incomplete
  | more + 1, octet :: rest =>
    if low ≤ octet ∧ octet ≤ high then
      continued (code * 64 + octet.toNat % 64) (seen + 1) 0x80 0xBF more rest
    else .invalid seen (octet :: rest)

/-- Reads the head of a sequence of octets. The bounds on the second octet leave out what is written
too long, the surrogates and what lies above the last character. -/
def next : Octets → Reading
  | [] => .done
  | octet :: rest =>
    let lead := octet.toNat
    if lead < 0x80 then .char (Char.ofNat lead) rest
    else if lead < 0xC2 then .invalid 1 rest
    else if lead < 0xE0 then continued (lead - 0xC0) 1 0x80 0xBF 1 rest
    else if lead = 0xE0 then continued 0 1 0xA0 0xBF 2 rest
    else if lead = 0xED then continued 0xD 1 0x80 0x9F 2 rest
    else if lead < 0xF0 then continued (lead - 0xE0) 1 0x80 0xBF 2 rest
    else if lead = 0xF0 then continued 0 1 0x90 0xBF 3 rest
    else if lead < 0xF4 then continued (lead - 0xF0) 1 0x80 0xBF 3 rest
    else if lead = 0xF4 then continued 4 1 0x80 0x8F 3 rest
    else .invalid 1 rest

theorem continued_char_length {code seen : Nat} {low high : UInt8} {more : Nat} {octets : Octets}
    {character : Char} {rest : Octets}
    (read : continued code seen low high more octets = .char character rest) :
    rest.length ≤ octets.length := by
  fun_induction continued code seen low high more octets with
  | case1 => simp_all
  | case2 => simp at read
  | case3 code seen low high more octet tail inside ih => exact Nat.le_succ_of_le (ih read)
  | case4 => simp at read

theorem continued_invalid_length {code seen : Nat} {low high : UInt8} {more : Nat}
    {octets : Octets} {length : Nat} {rest : Octets}
    (read : continued code seen low high more octets = .invalid length rest) :
    rest.length ≤ octets.length := by
  fun_induction continued code seen low high more octets with
  | case1 => simp at read
  | case2 => simp at read
  | case3 code seen low high more octet tail inside ih => exact Nat.le_succ_of_le (ih read)
  | case4 => simp_all

/-- A character takes at least one octet. -/
theorem next_char_length {octets : Octets} {character : Char} {rest : Octets}
    (read : next octets = .char character rest) : rest.length < octets.length := by
  cases octets with
  | nil => simp [next] at read
  | cons octet tail =>
    have longer {code seen : Nat} {low high : UInt8} {more : Nat}
        (found : continued code seen low high more tail = .char character rest) :
        rest.length < (octet :: tail).length :=
      Nat.lt_succ_of_le (continued_char_length found)
    grind [next]

/-- An ill-formed start takes at least one octet. -/
theorem next_invalid_length {octets : Octets} {length : Nat} {rest : Octets}
    (read : next octets = .invalid length rest) : rest.length < octets.length := by
  cases octets with
  | nil => simp [next] at read
  | cons octet tail =>
    have longer {code seen : Nat} {low high : UInt8} {more : Nat}
        (found : continued code seen low high more tail = .invalid length rest) :
        rest.length < (octet :: tail).length :=
      Nat.lt_succ_of_le (continued_invalid_length found)
    grind [next]

/-! ### Reading a text -/

/-- Why octets are no text. -/
inductive Fault where
  /-- Octets, `length` of them from `index` on, begin no character. -/
  | invalid (length index : Nat)
  /-- The octets end within the character that begins at `index`. -/
  | incomplete (index : Nat)
  deriving Repr, DecidableEq

/-- The wording of a fault. -/
def Fault.message : Fault → String
  | .invalid length index => s!"invalid utf-8 sequence of {length} bytes from index {index}"
  | .incomplete index => s!"incomplete utf-8 byte sequence from index {index}"

/-- The characters of the octets from `index` on. -/
def charsFrom (index : Nat) (octets : Octets) : Except Fault (List Char) :=
  match read : next octets with
  | .done => .ok []
  | .char character rest =>
    have := next_char_length read
    (charsFrom (index + character.utf8Size) rest).map (character :: ·)
  | .invalid length _ => .error (.invalid length index)
  | .incomplete => .error (.incomplete index)
termination_by octets.length

/-- The characters of well-formed octets. -/
def chars (octets : Octets) : Except Fault (List Char) :=
  charsFrom 0 octets

/-- The text of well-formed octets. -/
def decode (octets : Octets) : Except Fault String :=
  (chars octets).map String.ofList

/-- The characters of any octets: each ill-formed start, and a character cut short by the end, is
read as the replacement character. -/
def lossyChars (octets : Octets) : List Char :=
  match read : next octets with
  | .done => []
  | .char character rest =>
    have := next_char_length read
    character :: lossyChars rest
  | .invalid _ rest =>
    have := next_invalid_length read
    '\uFFFD' :: lossyChars rest
  | .incomplete => ['\uFFFD']
termination_by octets.length

/-- The text of any octets. -/
def lossy (octets : Octets) : String :=
  String.ofList (lossyChars octets)

end Utf8

end SignedQueue

/-!
**Numbers read from text.** An integer is read from left to right within the bounds of its type, and
the first character that cannot be taken decides the fault.

* `Numeral.magnitude`: digits of a radix, bounded from above;
* `Numeral.readInteger`: an optional sign and decimal digits, within two bounds;
* `Numeral.readUInt64`, `Numeral.readUInt32`, `Numeral.readInt64`: the three widths in use;
* `Numeral.readBool`: the two truth values.
-/

namespace SignedQueue.Numeral

/-- Why a text is no integer of the wanted type. -/
inductive Fault where
  | empty
  | badDigit
  | tooLarge
  | tooSmall
  deriving Repr, DecidableEq

/-- The wording of a fault. -/
def Fault.message : Fault → String
  | .empty => "cannot parse integer from empty string"
  | .badDigit => "invalid digit found in string"
  | .tooLarge => "number too large to fit in target type"
  | .tooSmall => "number too small to fit in target type"

/-- The value of a digit below `radix`; letters of either case follow the ten figures. -/
def digit? (radix : Nat) (character : Char) : Option Nat :=
  let code := character.toNat
  let value? : Option Nat :=
    if 48 ≤ code ∧ code ≤ 57 then some (code - 48)
    else if 97 ≤ code ∧ code ≤ 122 then some (code - 87)
    else if 65 ≤ code ∧ code ≤ 90 then some (code - 55)
    else none
  value?.filter (· < radix)

/-- The value of digits after a start of value `value`. What exceeds `bound` is the fault `excess`;
at one place a character that is no digit goes before it. -/
def magnitudeFrom (radix bound : Nat) (excess : Fault) (value : Nat) :
    List Char → Except Fault Nat
  | [] => .ok value
  | character :: rest =>
    match digit? radix character with
    | none => .error .badDigit
    | some digit =>
      let grown := value * radix + digit
      if bound < grown then .error excess else magnitudeFrom radix bound excess grown rest

/-- The value of one or more digits that is at most `bound`. -/
def magnitude (radix bound : Nat) (excess : Fault) : List Char → Except Fault Nat
  | [] => .error .empty
  | digits => magnitudeFrom radix bound excess 0 digits

/-- The integer between `-below` and `above` that a text shows. A type without negative numbers
(`below = 0`) has no minus sign. -/
def readInteger (below above : Nat) (text : String) : Except Fault Int :=
  match text.toList with
  | ['+'] | ['-'] => .error .badDigit
  | '+' :: digits => (magnitude 10 above .tooLarge digits).map Int.ofNat
  | '-' :: digits =>
    if below = 0 then .error .badDigit
    else (magnitude 10 below .tooSmall digits).map (- Int.ofNat ·)
  | digits => (magnitude 10 above .tooLarge digits).map Int.ofNat

/-- An unsigned number of 64 bits. -/
def readUInt64 (text : String) : Except Fault UInt64 :=
  (readInteger 0 (UInt64.size - 1) text).map fun value => UInt64.ofNat value.toNat

/-- An unsigned number of 32 bits. -/
def readUInt32 (text : String) : Except Fault UInt32 :=
  (readInteger 0 (UInt32.size - 1) text).map fun value => UInt32.ofNat value.toNat

/-- A signed number of 64 bits. -/
def readInt64 (text : String) : Except Fault Int64 :=
  (readInteger (UInt64.size / 2) (UInt64.size / 2 - 1) text).map Int64.ofInt

/-- A truth value is spelt in lower case. -/
def readBool : String → Option Bool
  | "true" => some true
  | "false" => some false
  | _ => none

/-- The wording for a text that is no truth value. -/
def notBool : String :=
  "provided string was not `true` or `false`"

end SignedQueue.Numeral

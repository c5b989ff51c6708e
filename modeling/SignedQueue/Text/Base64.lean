import SignedQueue.Text.Utf8
/-!
**Base64.** Octets as text in an alphabet of 64 symbols: three octets make a group of four symbols,
and one or two octets at the end make a group that is filled up with padding.

* `Base64.encode`: the text of octets;
* `Base64.decode`: the octets of a text, which must be exactly what `encode` writes;
* `Base64.Fault`: why a text is refused, and where.
-/

namespace SignedQueue.Base64

/-! ### The alphabet -/

/-- The symbol of a value below 64. -/
def symbol (value : Nat) : Char :=
  if value < 26 then Char.ofNat (65 + value)
  else if value < 52 then Char.ofNat (71 + value)
  else if value < 62 then Char.ofNat (value - 4)
  else if value = 62 then '+'
  else '/'

/-- The value of an octet that is a symbol of the alphabet. -/
def value? (octet : UInt8) : Option Nat :=
  let code := octet.toNat
  if 65 ≤ code ∧ code ≤ 90 then some (code - 65)
  else if 97 ≤ code ∧ code ≤ 122 then some (code - 71)
  else if 48 ≤ code ∧ code ≤ 57 then some (code + 4)
  else if code = 43 then some 62
  else if code = 47 then some 63
  else none

/-- The octet `=`, which fills up the last group. -/
def padding : UInt8 := 61

/-! ### Writing -/

/-- The symbols of octets, group by group. -/
def symbols : Octets → List Char
  | first :: second :: third :: rest =>
    let bits := first.toNat * 65536 + second.toNat * 256 + third.toNat
    symbol (bits / 262144) :: symbol (bits / 4096 % 64) :: symbol (bits / 64 % 64) ::
      symbol (bits % 64) :: symbols rest
  | [first, second] =>
    let bits := first.toNat * 1024 + second.toNat * 4
    [symbol (bits / 4096), symbol (bits / 64 % 64), symbol (bits % 64), '=']
  | [first] =>
    let bits := first.toNat * 16
    [symbol (bits / 64), symbol (bits % 64), '=', '=']
  | [] => []

/-- The text of octets. -/
def encode (octets : Octets) : String :=
  String.ofList (symbols octets)

/-! ### Reading -/

/-- Why a text is no Base64. -/
inductive Fault where
  | badSymbol (octet : UInt8) (index : Nat)
  /-- A single symbol at the end, which holds no octet. -/
  | badLength (length : Nat)
  | badPadding
  /-- The last symbol has bits that belong to no octet. -/
  | badLastSymbol (octet : UInt8) (index : Nat)
  deriving Repr, DecidableEq

/-- The wording of a fault. -/
def Fault.message : Fault → String
  | .badSymbol octet index => s!"Invalid symbol {octet.toNat}, offset {index}."
  | .badLength length => s!"Invalid input length: {length}"
  | .badPadding => "Invalid padding"
  | .badLastSymbol octet index => s!"Invalid last symbol {octet.toNat}, offset {index}."

/-- The value of the symbol at `index`. -/
def valueAt (index : Nat) (octet : UInt8) : Except Fault Nat :=
  match value? octet with
  | some value => .ok value
  | none => .error (.badSymbol octet index)

/-- The values of the last group's symbols and the number of paddings after them; `index` counts
within the group, which begins at `start`. Padding stands at the end only, and never first or
second. -/
def lastValues (start index : Nat) : Octets → Except Fault (List Nat × Nat)
  | [] => .ok ([], 0)
  | octet :: rest => do
    if octet = padding then
      if 2 ≤ index ∧ rest.all (· = padding) then return ([], rest.length + 1)
      else throw (.badSymbol padding (start + index))
    else
      let value ← valueAt (start + index) octet
      let (values, paddings) ← lastValues start (index + 1) rest
      return (value :: values, paddings)

/-- The octets of the last group, whose symbols have the given values. -/
def lastOctets (start paddings : Nat) : List Nat → Except Fault Octets
  | [] => .ok []
  | [_] => .error (.badLength (start + 1))
  | [first, second] =>
    if paddings ≠ 2 then .error .badPadding
    else if second % 16 ≠ 0 then
      .error (.badLastSymbol (UInt8.ofNat (symbol second).toNat) (start + 1))
    else .ok [UInt8.ofNat (first * 4 + second / 16)]
  | [first, second, third] =>
    if paddings ≠ 1 then .error .badPadding
    else if third % 4 ≠ 0 then
      .error (.badLastSymbol (UInt8.ofNat (symbol third).toNat) (start + 2))
    else
      let bits := first * 4096 + second * 64 + third
      .ok [UInt8.ofNat (bits / 1024), UInt8.ofNat (bits / 4 % 256)]
  | first :: second :: third :: fourth :: _ =>
    let bits := first * 262144 + second * 4096 + third * 64 + fourth
    .ok [UInt8.ofNat (bits / 65536), UInt8.ofNat (bits / 256 % 256), UInt8.ofNat (bits % 256)]

/-- The octets of the groups from `start` on. The group with nothing after it is the last one. -/
def groups (start : Nat) : Octets → Except Fault Octets
  | first :: second :: third :: fourth :: next :: rest => do
    let first ← valueAt start first
    let second ← valueAt (start + 1) second
    let third ← valueAt (start + 2) third
    let fourth ← valueAt (start + 3) fourth
    let octets ← lastOctets start 0 [first, second, third, fourth]
    return octets ++ (← groups (start + 4) (next :: rest))
  | last => do
    let (values, paddings) ← lastValues start 0 last
    lastOctets start paddings values

/-- The fault of a single octet after the last whole group that is neither symbol nor padding: it is
found before any other. -/
def strayEnd? (octets : Octets) : Option Fault :=
  if octets.length % 4 = 1 then
    match octets.getLast? with
    | some octet =>
      if octet = padding ∨ (value? octet).isSome then none
      else some (.badSymbol octet (octets.length - 1))
    | none => none
  else none

/-- The octets that a text of Base64 stands for. -/
def decode (text : String) : Except Fault Octets :=
  let octets := Utf8.encode text
  match strayEnd? octets with
  | some fault => .error fault
  | none => groups 0 octets

end SignedQueue.Base64

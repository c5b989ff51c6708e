import Mathlib
import SignedQueue.Text.Base64
import SignedQueue.Proofs.Success
import SignedQueue.Proofs.TextOctets
/-!
**Base64 has one text for any octets.** Octets are read back from the text that they are written as,
and a text is only read if it is the one that its octets are written as. Both are shown group by
group: four symbols hold three octets, and the last group may be filled up with padding.

* `Base64.groups_symbolOctets`: the symbols of octets are read as these octets;
* `Base64.eq_symbolOctets_of_groups`: what is read are the symbols of the octets that result;
* `Base64.decode_eq_ok_iff`: a text is read exactly if it is the one that is written.
-/

namespace SignedQueue.Base64

/-! ### Symbols -/

/-- The octet of the symbol of a value. -/
def symbolOctet (value : Nat) : UInt8 :=
  UInt8.ofNat (symbol value).toNat

theorem value?_symbolOctet {value : Nat} (small : value < 64) :
    value? (symbolOctet value) = some value := by
  have all : ∀ value < 64, value? (symbolOctet value) = some value := by decide
  exact all value small

theorem encodeChar_symbol {value : Nat} (small : value < 64) :
    Utf8.encodeChar (symbol value) = [symbolOctet value] := by
  have all : ∀ value < 64, Utf8.encodeChar (symbol value) = [symbolOctet value] := by decide
  exact all value small

theorem symbolOctet_ne_padding {value : Nat} (small : value < 64) :
    symbolOctet value ≠ padding := by
  have all : ∀ value < 64, symbolOctet value ≠ padding := by decide
  exact all value small

theorem valueAt_symbolOctet {value : Nat} (small : value < 64) (index : Nat) :
    valueAt index (symbolOctet value) = .ok value := by
  rw [valueAt, value?_symbolOctet small]

/-- An octet with a value is the symbol of the value. -/
theorem symbolOctet_of_value? {octet : UInt8} {value : Nat} (found : value? octet = some value) :
    value < 64 ∧ octet = symbolOctet value := by
  have all : ∀ code < 256, ∀ value ∈ value? (UInt8.ofNat code),
      value < 64 ∧ UInt8.ofNat code = symbolOctet value := by decide +kernel
  have one := all octet.toNat octet.toNat_lt value
  rw [UInt8.ofNat_toNat] at one
  exact one found

theorem symbolOctet_of_valueAt {index value : Nat} {octet : UInt8}
    (found : valueAt index octet = .ok value) : value < 64 ∧ octet = symbolOctet value := by
  unfold valueAt at found
  split at found
  · cases found
    exact symbolOctet_of_value? (by assumption)
  · cases found

/-- The octets of the symbols of octets. -/
def symbolOctets (octets : Octets) : Octets :=
  (symbols octets).flatMap Utf8.encodeChar

theorem encode_encode (octets : Octets) : Utf8.encode (encode octets) = symbolOctets octets := by
  rw [Utf8.encode, encode, String.toList_ofList, symbolOctets]

section Groups

variable {bits : Nat}

theorem symbolOctets_three {first second third : UInt8} (rest : Octets)
    (sum : first.toNat * 65536 + second.toNat * 256 + third.toNat = bits) :
    symbolOctets (first :: second :: third :: rest) =
      symbolOctet (bits / 262144) :: symbolOctet (bits / 4096 % 64) ::
        symbolOctet (bits / 64 % 64) :: symbolOctet (bits % 64) :: symbolOctets rest := by
  have below := first.toNat_lt
  have below' := second.toNat_lt
  have below'' := third.toNat_lt
  simp only [symbolOctets, symbols, List.flatMap_cons, sum]
  rw [encodeChar_symbol (by omega), encodeChar_symbol (by omega), encodeChar_symbol (by omega),
    encodeChar_symbol (by omega)]
  rfl

theorem symbolOctets_two {first second : UInt8}
    (sum : first.toNat * 1024 + second.toNat * 4 = bits) :
    symbolOctets [first, second] =
      [symbolOctet (bits / 4096), symbolOctet (bits / 64 % 64), symbolOctet (bits % 64),
        padding] := by
  have below := first.toNat_lt
  have below' := second.toNat_lt
  simp only [symbolOctets, symbols, List.flatMap_cons, sum]
  rw [encodeChar_symbol (by omega), encodeChar_symbol (by omega), encodeChar_symbol (by omega)]
  rfl

theorem symbolOctets_one {first : UInt8} (sum : first.toNat * 16 = bits) :
    symbolOctets [first] =
      [symbolOctet (bits / 64), symbolOctet (bits % 64), padding, padding] := by
  have below := first.toNat_lt
  simp only [symbolOctets, symbols, List.flatMap_cons, sum]
  rw [encodeChar_symbol (by omega), encodeChar_symbol (by omega)]
  rfl

end Groups

/-! ### Reading what has been written -/

theorem lastValues_symbol {value : Nat} (small : value < 64) (start index : Nat) (rest : Octets) :
    lastValues start index (symbolOctet value :: rest) =
      (lastValues start (index + 1) rest).map fun (values, paddings) =>
        (value :: values, paddings) := by
  rw [lastValues, if_neg (symbolOctet_ne_padding small), valueAt_symbolOctet small]
  cases lastValues start (index + 1) rest <;> rfl

/-- A group with nothing after it is the last one. -/
theorem groups_last {start : Nat} {octets : Octets} (short : octets.length ≤ 4) :
    groups start octets =
      lastValues start 0 octets >>= fun (values, paddings) => lastOctets start paddings values := by
  rw [groups]
  rintro first second third fourth next rest rfl
  simp only [List.length_cons] at short
  omega

/-- A whole group stands for three octets, whether it is the last one or not. -/
theorem groups_whole {first second third fourth bits : Nat} (start : Nat) (firstSmall : first < 64)
    (secondSmall : second < 64) (thirdSmall : third < 64) (fourthSmall : fourth < 64)
    (sum : first * 262144 + second * 4096 + third * 64 + fourth = bits) (rest : Octets) :
    groups start (symbolOctet first :: symbolOctet second :: symbolOctet third ::
        symbolOctet fourth :: rest) =
      (groups (start + 4) rest).map
        ([UInt8.ofNat (bits / 65536), UInt8.ofNat (bits / 256 % 256), UInt8.ofNat (bits % 256)] ++
          ·) := by
  subst sum
  cases rest with
  | nil =>
    rw [groups_last (by simp), lastValues_symbol firstSmall, lastValues_symbol secondSmall,
      lastValues_symbol thirdSmall, lastValues_symbol fourthSmall]
    rfl
  | cons next rest =>
    rw [groups, valueAt_symbolOctet firstSmall, valueAt_symbolOctet secondSmall,
      valueAt_symbolOctet thirdSmall, valueAt_symbolOctet fourthSmall]
    cases groups (start + 4) (next :: rest) <;> rfl

/-- Values of six bits hold all bits together. -/
theorem sum_of_three (bits : Nat) :
    bits / 4096 * 4096 + bits / 64 % 64 * 64 + bits % 64 = bits := by
  omega

theorem sum_of_four (bits : Nat) :
    bits / 262144 * 262144 + bits / 4096 % 64 * 4096 + bits / 64 % 64 * 64 + bits % 64 = bits := by
  omega

theorem groups_symbolOctets (start : Nat) (octets : Octets) :
    groups start (symbolOctets octets) = .ok octets := by
  induction octets using symbols.induct generalizing start with
  | case1 first second third rest ih =>
    have below := first.toNat_lt
    have below' := second.toNat_lt
    have below'' := third.toNat_lt
    generalize sum : first.toNat * 65536 + second.toNat * 256 + third.toNat = bits
    rw [symbolOctets_three rest sum, groups_whole start (by omega) (by omega) (by omega)
      (by omega) (sum_of_four bits), ih, show bits / 65536 = first.toNat by omega,
      show bits / 256 % 256 = second.toNat by omega, show bits % 256 = third.toNat by omega]
    simp only [UInt8.ofNat_toNat]
    rfl
  | case2 first second =>
    have below := first.toNat_lt
    have below' := second.toNat_lt
    generalize sum : first.toNat * 1024 + second.toNat * 4 = bits
    -- sixteen bits leave two of the third symbol over, and the reader insists that these are zeros
    have unused : bits % 64 % 4 = 0 := by omega
    have firstBits : bits / 1024 = first.toNat := by omega
    have secondBits : bits / 4 % 256 = second.toNat := by omega
    have padded : lastValues start 3 [padding] = .ok ([], 1) := rfl
    rw [symbolOctets_two sum, groups_last (by simp), lastValues_symbol (by omega),
      lastValues_symbol (by omega), lastValues_symbol (by omega), padded]
    show lastOctets start 1 [bits / 4096, bits / 64 % 64, bits % 64] = _
    simp only [lastOctets, sum_of_three, firstBits, secondBits, UInt8.ofNat_toNat]
    rw [if_neg (by simp), if_neg (by simpa using unused)]
  | case3 first =>
    have below := first.toNat_lt
    generalize sum : first.toNat * 16 = bits
    have unused : bits % 64 % 16 = 0 := by omega
    have whole : bits / 64 * 4 + bits % 64 / 16 = first.toNat := by omega
    have padded : lastValues start 2 [padding, padding] = .ok ([], 2) := rfl
    rw [symbolOctets_one sum, groups_last (by simp), lastValues_symbol (by omega),
      lastValues_symbol (by omega), padded]
    show lastOctets start 2 [bits / 64, bits % 64] = _
    rw [lastOctets, if_neg (by simp), if_neg (by simpa using unused), whole, UInt8.ofNat_toNat]
  | case4 => rfl

/-! ### Writing what has been read -/

/-- The values of the last group are those of its symbols, and the padding comes after two symbols
at least. -/
theorem lastValues_eq_ok {start index paddings : Nat} {octets : Octets} {values : List Nat}
    (read : lastValues start index octets = .ok (values, paddings)) :
    octets = values.map symbolOctet ++ List.replicate paddings padding ∧
      (∀ value ∈ values, value < 64) ∧ (paddings = 0 ∨ 2 ≤ index + values.length) := by
  induction octets generalizing index values with
  | nil =>
    cases read
    simp
  | cons octet rest ih =>
    rw [lastValues] at read
    split_ifs at read with padded allowed
    · cases read
      have all : octet :: rest = List.replicate (rest.length + 1) padding := by
        rw [List.eq_replicate_iff]
        simpa [padded] using allowed.2
      exact ⟨all, by simp, .inr allowed.1⟩
    · obtain ⟨value, found, read⟩ := bind_eq_ok.mp read
      obtain ⟨⟨others, paddings'⟩, restRead, made⟩ := bind_eq_ok.mp read
      cases made
      obtain ⟨same, small, few⟩ := ih restRead
      obtain ⟨valueSmall, symbol⟩ := symbolOctet_of_valueAt found
      refine ⟨?_, ?_, ?_⟩
      · rw [same, symbol]
        rfl
      · simpa using ⟨valueSmall, small⟩
      · refine few.imp_right fun enough => ?_
        rw [List.length_cons]
        omega

section Groups

variable {first second third fourth bits : Nat}

theorem symbolOctets_of_four (firstSmall : first < 64) (secondSmall : second < 64)
    (thirdSmall : third < 64) (fourthSmall : fourth < 64)
    (sum : first * 262144 + second * 4096 + third * 64 + fourth = bits) (rest : Octets) :
    symbolOctets ([UInt8.ofNat (bits / 65536), UInt8.ofNat (bits / 256 % 256),
        UInt8.ofNat (bits % 256)] ++ rest) =
      [first, second, third, fourth].map symbolOctet ++ symbolOctets rest := by
  have whole : bits / 65536 * 65536 + bits / 256 % 256 * 256 + bits % 256 = bits := by
    -- this holds of any bits; how they are put together would only slow `omega` down
    clear sum
    omega
  have sameBits : (UInt8.ofNat (bits / 65536)).toNat * 65536 +
      (UInt8.ofNat (bits / 256 % 256)).toNat * 256 + (UInt8.ofNat (bits % 256)).toNat = bits := by
    rw [Utf8.toNat_octet (by omega), Utf8.toNat_octet (by omega), Utf8.toNat_octet (by omega),
      whole]
  show symbolOctets (_ :: _ :: _ :: rest) = _
  rw [symbolOctets_three rest sameBits, show bits / 262144 = first by omega,
    show bits / 4096 % 64 = second by omega, show bits / 64 % 64 = third by omega,
    show bits % 64 = fourth by omega]
  rfl

theorem symbolOctets_of_three (firstSmall : first < 64) (secondSmall : second < 64)
    (thirdSmall : third < 64) (unused : third % 4 = 0)
    (sum : first * 4096 + second * 64 + third = bits) :
    symbolOctets [UInt8.ofNat (bits / 1024), UInt8.ofNat (bits / 4 % 256)] =
      [first, second, third].map symbolOctet ++ [padding] := by
  have whole : bits / 1024 * 1024 + bits / 4 % 256 * 4 = bits := by
    have noRest : bits % 4 = 0 := by omega
    clear sum
    omega
  have sameBits : (UInt8.ofNat (bits / 1024)).toNat * 1024 +
      (UInt8.ofNat (bits / 4 % 256)).toNat * 4 = bits := by
    rw [Utf8.toNat_octet (by omega), Utf8.toNat_octet (by omega), whole]
  rw [symbolOctets_two sameBits, show bits / 4096 = first by omega,
    show bits / 64 % 64 = second by omega, show bits % 64 = third by omega]
  rfl

theorem symbolOctets_of_two (firstSmall : first < 64) (secondSmall : second < 64)
    (unused : second % 16 = 0) :
    symbolOctets [UInt8.ofNat (first * 4 + second / 16)] =
      [first, second].map symbolOctet ++ [padding, padding] := by
  have sameBits : (UInt8.ofNat (first * 4 + second / 16)).toNat * 16 = first * 64 + second := by
    rw [Utf8.toNat_octet (by omega)]
    omega
  rw [symbolOctets_one sameBits, show (first * 64 + second) / 64 = first by omega,
    show (first * 64 + second) % 64 = second by omega]
  rfl

end Groups

/-- What the last group stands for is written as this group. -/
theorem eq_symbolOctets_of_last {start : Nat} {octets result : Octets} (short : octets.length ≤ 4)
    (read : groups start octets = .ok result) : octets = symbolOctets result := by
  rw [groups_last short] at read
  obtain ⟨⟨values, paddings⟩, valuesRead, read⟩ := bind_eq_ok.mp read
  obtain ⟨same, small, few⟩ := lastValues_eq_ok valuesRead
  have lengths : values.length + paddings ≤ 4 := by simpa [same] using short
  rw [same]
  match values with
  | [] =>
    cases read
    -- padding comes third at the earliest, so that a group without values is empty
    obtain rfl : paddings = 0 := by simpa using few
    rfl
  | [_] => cases read
  | [first, second] =>
    simp only [List.forall_mem_cons] at small
    simp only [lastOctets] at read
    split_ifs at read with two unused
    cases read
    rw [symbolOctets_of_two small.1 small.2.1 (not_not.mp unused), not_not.mp two]
    rfl
  | [first, second, third] =>
    simp only [List.forall_mem_cons] at small
    simp only [lastOctets] at read
    split_ifs at read with one unused
    cases read
    rw [symbolOctets_of_three small.1 small.2.1 small.2.2.1 (not_not.mp unused) rfl,
      not_not.mp one]
    rfl
  | first :: second :: third :: fourth :: rest =>
    simp only [List.forall_mem_cons] at small
    simp only [List.length_cons] at lengths
    obtain rfl : paddings = 0 := by omega
    obtain rfl : rest = [] := List.eq_nil_of_length_eq_zero (by omega)
    cases read
    have whole := symbolOctets_of_four small.1 small.2.1 small.2.2.1 small.2.2.2.1 rfl []
    exact whole.symm

theorem eq_symbolOctets_of_groups {start : Nat} {octets result : Octets}
    (read : groups start octets = .ok result) : octets = symbolOctets result := by
  induction start, octets using groups.induct generalizing result with
  | case1 start first second third fourth next rest ih =>
    rw [groups] at read
    obtain ⟨firstValue, firstRead, read⟩ := bind_eq_ok.mp read
    obtain ⟨secondValue, secondRead, read⟩ := bind_eq_ok.mp read
    obtain ⟨thirdValue, thirdRead, read⟩ := bind_eq_ok.mp read
    obtain ⟨fourthValue, fourthRead, read⟩ := bind_eq_ok.mp read
    obtain ⟨three, threeRead, read⟩ := bind_eq_ok.mp read
    obtain ⟨others, restRead, made⟩ := bind_eq_ok.mp read
    obtain ⟨firstSmall, rfl⟩ := symbolOctet_of_valueAt firstRead
    obtain ⟨secondSmall, rfl⟩ := symbolOctet_of_valueAt secondRead
    obtain ⟨thirdSmall, rfl⟩ := symbolOctet_of_valueAt thirdRead
    obtain ⟨fourthSmall, rfl⟩ := symbolOctet_of_valueAt fourthRead
    cases threeRead
    cases made
    rw [symbolOctets_of_four firstSmall secondSmall thirdSmall fourthSmall rfl, ← ih restRead]
    rfl
  | case2 start last short =>
    refine eq_symbolOctets_of_last ?_ read
    match last with
    | [] | [_] | [_, _] | [_, _, _] | [_, _, _, _] => simp
    | first :: second :: third :: fourth :: next :: rest =>
      exact absurd rfl (short first second third fourth next rest)

/-! ### Texts -/

/-- Every text that is written passes the check of its end. -/
theorem strayEnd?_symbolOctets (octets : Octets) : strayEnd? (symbolOctets octets) = none := by
  have whole : (symbolOctets octets).length % 4 = 0 := by
    induction octets using symbols.induct with
    | case1 first second third rest ih =>
      rw [symbolOctets_three rest rfl]
      simpa [Nat.add_assoc] using ih
    | case2 first second =>
      rw [symbolOctets_two rfl]
      simp only [List.length_cons, List.length_nil]
    | case3 first =>
      rw [symbolOctets_one rfl]
      simp only [List.length_cons, List.length_nil]
    | case4 => rfl
  rw [strayEnd?, if_neg (by omega)]

/-- A text is read as octets exactly if it is the text that they are written as. -/
theorem decode_eq_ok_iff {text : String} {octets : Octets} :
    decode text = .ok octets ↔ text = encode octets := by
  constructor
  · intro read
    simp only [decode] at read
    split at read
    · cases read
    · refine Utf8.encode_injective ?_
      rw [encode_encode]
      exact eq_symbolOctets_of_groups read
  · rintro rfl
    simp only [decode, encode_encode, strayEnd?_symbolOctets]
    exact groups_symbolOctets 0 octets

theorem encode_injective : Function.Injective encode := by
  intro first second same
  have read : decode (encode second) = .ok first := decode_eq_ok_iff.mpr same.symm
  rw [decode_eq_ok_iff.mpr rfl] at read
  exact (Except.ok.inj read).symm

end SignedQueue.Base64

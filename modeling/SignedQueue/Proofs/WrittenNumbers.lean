import Mathlib
import SignedQueue.Markup.Element
import SignedQueue.Proofs.Success
import SignedQueue.Proofs.WrittenText
/-!
**A number is read from exactly the texts that spell it.** These are its figures, with any zeros
and a sign before them, and no blanks. A number is written in figures, and every number that fits
its type is read from these as it was.

* `Numeral.Figures`, `Numeral.Spells`: what stands for a number, and for an integer with a sign;
* `Numeral.readInteger_eq_ok_iff`: an integer is read from what spells it, if it fits;
* `Numeral.readUInt64_eq_ok_iff`, `Numeral.readInt64_eq_ok_iff`: so are the two types in use;
* `Numeral.spells_toString`: what is written of a number spells it;
* `Markup.Element.readUInt64_toString`: so a count that is written is read back.
-/

namespace SignedQueue

namespace Numeral

variable {bound : Nat} {excess : Fault} {characters : List Char} {value : Nat}

/-! ### Figures -/

theorem digit?_ten (character : Char) :
    digit? 10 character =
      if character.isDigit = true then some (character.toNat - '0'.toNat) else none := by
  have range : character.isDigit = true ↔ 48 ≤ character.toNat ∧ character.toNat ≤ 57 := by
    simp [Char.isDigit, UInt32.le_iff_toNat_le]
  simp only [range, digit?]
  split_ifs with figure
  · have small : decide (character.toNat - 48 < 10) = true := decide_eq_true (by omega)
    rw [Option.filter_some, if_pos small]
    rfl
  · have large : ¬ decide (character.toNat - 87 < 10) = true := by
      rw [decide_eq_true_eq]
      omega
    rw [Option.filter_some, if_neg large]
  · have large : ¬ decide (character.toNat - 55 < 10) = true := by
      rw [decide_eq_true_eq]
      omega
    rw [Option.filter_some, if_neg large]
  · rfl

/-- Further figures make a number no smaller. -/
theorem le_ofDigitChars (figures : List Char) (value : Nat) :
    value ≤ Nat.ofDigitChars 10 figures value := by
  rw [Nat.ofDigitChars_eq_ofDigitChars_zero]
  have grows : value ≤ 10 ^ figures.length * value := Nat.le_mul_of_pos_left value (by positivity)
  omega

/-- Characters are read if all of them are figures and the number they stand for fits. -/
theorem magnitudeFrom_eq_ok_iff {start : Nat} (inside : start ≤ bound) :
    magnitudeFrom 10 bound excess start characters = .ok value ↔
      (∀ character ∈ characters, character.isDigit = true) ∧
        Nat.ofDigitChars 10 characters start = value ∧ value ≤ bound := by
  induction characters generalizing start with
  | nil =>
    rw [magnitudeFrom, Except.ok.injEq, Nat.ofDigitChars_nil]
    constructor
    · rintro rfl
      exact ⟨List.forall_mem_nil _, rfl, inside⟩
    · exact fun all => all.2.1
  | cons character rest ih =>
    rw [List.forall_mem_cons, Nat.ofDigitChars_cons, magnitudeFrom, digit?_ten, mul_comm 10]
    by_cases figure : character.isDigit = true
    · rw [if_pos figure, and_iff_right figure]
      show (if bound < start * 10 + (character.toNat - '0'.toNat) then .error excess
        else magnitudeFrom 10 bound excess _ rest) = .ok value ↔ _
      split_ifs with beyond
      · -- what is too large by now only grows
        refine iff_of_false (fun read => nomatch read) ?_
        rintro ⟨-, rfl, fits⟩
        exact absurd ((le_ofDigitChars rest _).trans fits) (not_le.mpr beyond)
      · exact ih (not_lt.mp beyond)
    · rw [if_neg figure]
      exact iff_of_false (fun read => nomatch read) fun all => figure all.1.1

/-- One or more figures that stand for a number. -/
structure Figures (characters : List Char) (value : Nat) : Prop where
  filled : characters ≠ []
  all : ∀ character ∈ characters, character.isDigit = true
  stand : Nat.ofDigitChars 10 characters 0 = value

theorem magnitude_eq_ok_iff :
    magnitude 10 bound excess characters = .ok value ↔
      Figures characters value ∧ value ≤ bound := by
  cases characters with
  | nil => exact iff_of_false (fun read => nomatch read) fun both => both.1.filled rfl
  | cons first rest =>
    have read : magnitude 10 bound excess (first :: rest) =
        magnitudeFrom 10 bound excess 0 (first :: rest) := rfl
    rw [read, magnitudeFrom_eq_ok_iff bound.zero_le]
    constructor
    · rintro ⟨all, stand, fits⟩
      exact ⟨⟨List.cons_ne_nil first rest, all, stand⟩, fits⟩
    · rintro ⟨⟨-, all, stand⟩, fits⟩
      exact ⟨all, stand, fits⟩

theorem figures_toDigits (value : Nat) : Figures (Nat.toDigits 10 value) value where
  filled := Nat.toDigits_ne_nil
  all _ member := Nat.isDigit_of_mem_toDigits (by decide) (by decide) member
  stand := Nat.ofDigitChars_ten_toDigits

/-- A sign is no figure. -/
theorem Figures.ne_cons {sign : Char} (figures : Figures characters value)
    (mark : sign.isDigit = false) (rest : List Char) : characters ≠ sign :: rest := by
  rintro rfl
  rw [figures.all sign List.mem_cons_self] at mark
  cases mark

/-! ### Signs -/

/-- Characters that stand for an integer: figures with a plus sign or without one, or, where there
are negative numbers, with a minus sign. -/
inductive Spells (signed : Prop) : List Char → Int → Prop
  | bare {characters : List Char} {value : Nat} (figures : Figures characters value) :
      Spells signed characters value
  | plus {characters : List Char} {value : Nat} (figures : Figures characters value) :
      Spells signed ('+' :: characters) value
  | minus {characters : List Char} {value : Nat} (allowed : signed)
      (figures : Figures characters value) : Spells signed ('-' :: characters) (-value)

section Spells

variable {signed : Prop} {result : Int}

theorem spells_plus_iff :
    Spells signed ('+' :: characters) result ↔
      ∃ value, Figures characters value ∧ Int.ofNat value = result := by
  constructor
  · intro spells
    cases spells with
    | bare figures => exact absurd rfl (figures.ne_cons rfl _)
    | plus figures => exact ⟨_, figures, rfl⟩
  · rintro ⟨value, figures, rfl⟩
    exact .plus figures

theorem spells_minus_iff :
    Spells signed ('-' :: characters) result ↔
      signed ∧ ∃ value, Figures characters value ∧ -Int.ofNat value = result := by
  constructor
  · intro spells
    cases spells with
    | bare figures => exact absurd rfl (figures.ne_cons rfl _)
    | minus allowed figures => exact ⟨allowed, _, figures, rfl⟩
  · rintro ⟨allowed, value, figures, rfl⟩
    exact .minus allowed figures

theorem spells_bare_iff (plus : ∀ rest, characters ≠ '+' :: rest)
    (minus : ∀ rest, characters ≠ '-' :: rest) :
    Spells signed characters result ↔
      ∃ value, Figures characters value ∧ Int.ofNat value = result := by
  constructor
  · intro spells
    cases spells with
    | bare figures => exact ⟨_, figures, rfl⟩
    | plus figures => exact absurd rfl (plus _)
    | minus allowed figures => exact absurd rfl (minus _)
  · rintro ⟨value, figures, rfl⟩
    exact .bare figures

end Spells

/-- What has no minus sign is read if it fits from above. -/
theorem unsigned_eq_ok_iff {below above : Nat} {result : Int} :
    (magnitude 10 above .tooLarge characters).map Int.ofNat = .ok result ↔
      (∃ value, Figures characters value ∧ Int.ofNat value = result) ∧
        -below ≤ result ∧ result ≤ above := by
  rw [map_eq_ok]
  constructor
  · rintro ⟨value, read, rfl⟩
    obtain ⟨figures, fits⟩ := magnitude_eq_ok_iff.mp read
    exact ⟨⟨value, figures, rfl⟩, by simp only [Int.ofNat_eq_natCast]; omega⟩
  · rintro ⟨⟨value, figures, rfl⟩, -, fits⟩
    exact ⟨value, magnitude_eq_ok_iff.mpr ⟨figures, Int.ofNat_le.mp fits⟩, rfl⟩

/-- An integer is read from a text that spells it, if it fits. -/
theorem readInteger_eq_ok_iff {below above : Nat} {text : String} {result : Int} :
    readInteger below above text = .ok result ↔
      Spells (below ≠ 0) text.toList result ∧ -below ≤ result ∧ result ≤ above := by
  have noFigures (value : Nat) : ¬ Figures [] value := fun figures => figures.filled rfl
  rw [readInteger]
  split
  · rename_i whole
    simp [whole, spells_plus_iff, noFigures]
  · rename_i whole
    simp [whole, spells_minus_iff, noFigures]
  · rename_i whole
    rw [whole, spells_plus_iff, unsigned_eq_ok_iff]
  · rename_i whole
    rw [whole, spells_minus_iff]
    split_ifs with none
    · exact iff_of_false (fun read => nomatch read) fun all => all.1.1 none
    · rw [map_eq_ok]
      constructor
      · rintro ⟨value, read, rfl⟩
        obtain ⟨figures, fits⟩ := magnitude_eq_ok_iff.mp read
        exact ⟨⟨none, value, figures, rfl⟩, by simp only [Int.ofNat_eq_natCast]; omega⟩
      · rintro ⟨⟨-, value, figures, rfl⟩, fits, -⟩
        rw [Int.ofNat_eq_natCast] at fits
        exact ⟨value, magnitude_eq_ok_iff.mpr ⟨figures, by omega⟩, rfl⟩
  · rename_i plus minus
    rw [spells_bare_iff plus minus, unsigned_eq_ok_iff]

theorem toList_toString_negSucc (value : Nat) :
    (toString (Int.negSucc value)).toList = '-' :: Nat.toDigits 10 (value + 1) := by
  show ("-" ++ toString (value + 1)).toList = _
  rw [String.toList_append]
  exact congrArg ('-' :: ·) Nat.toList_repr

/-- What an integer is written as spells it. -/
theorem spells_toString {signed : Prop} (value : Int) (allowed : 0 ≤ value ∨ signed) :
    Spells signed (toString value).toList value := by
  cases value with
  | ofNat value =>
    have written : (toString (Int.ofNat value)).toList = Nat.toDigits 10 value := Nat.toList_repr
    rw [written]
    exact .bare (figures_toDigits value)
  | negSucc value =>
    rw [toList_toString_negSucc]
    exact .minus (allowed.resolve_left (by simp)) (figures_toDigits (value + 1))

theorem readUInt64_eq_ok_iff {text : String} {value : UInt64} :
    readUInt64 text = .ok value ↔ Spells False text.toList value.toNat := by
  have size : UInt64.size = 2 ^ 64 := rfl
  have signed : ((0 : Nat) ≠ 0) = False := eq_false fun nonzero => nonzero rfl
  simp only [readUInt64, map_eq_ok, readInteger_eq_ok_iff, signed, size]
  constructor
  · rintro ⟨result, ⟨spells, least, most⟩, rfl⟩
    lift result to Nat using by omega
    rwa [Int.toNat_natCast, UInt64.toNat_ofNat_of_lt' (by omega)]
  · intro spells
    have fits := value.toNat_lt
    exact ⟨value.toNat, ⟨spells, by omega, by omega⟩, UInt64.ofNat_toNat⟩

theorem readInt64_eq_ok_iff {text : String} {value : Int64} :
    readInt64 text = .ok value ↔ Spells True text.toList value.toInt := by
  have size : UInt64.size = 2 ^ 64 := rfl
  have signed : ((2 : Nat) ^ 64 / 2 ≠ 0) = True := eq_true (by decide)
  simp only [readInt64, map_eq_ok, readInteger_eq_ok_iff, size, signed]
  constructor
  · rintro ⟨result, ⟨spells, least, most⟩, rfl⟩
    rwa [Int64.toInt_ofInt_of_le (by omega) (by omega)]
  · intro spells
    have least := value.le_toInt
    have most := value.toInt_lt
    exact ⟨value.toInt, ⟨spells, by omega, by omega⟩, Int64.ofInt_toInt value⟩

end Numeral

namespace Markup

/-- No blanks stand around the figures of a number. -/
theorem trimBlanks_toString (value : Nat) : trimBlanks (toString value) = toString value := by
  have figures : (toString value).toList = Nat.toDigits 10 value := Nat.toList_repr
  have none : ∀ blank ∈ [' ', '\t', '\r', '\n'], ¬ blank.isDigit = true := by simp
  apply trimBlanks_of_notMem
  intro blank among member
  rw [figures] at member
  exact none blank among ((Numeral.figures_toDigits value).all blank member)

/-- Nor do they where a minus sign comes first. -/
theorem trimBlanks_toString_int (value : Int) : trimBlanks (toString value) = toString value := by
  cases value with
  | ofNat value => exact trimBlanks_toString value
  | negSucc value =>
    have none : ∀ blank ∈ [' ', '\t', '\r', '\n'], blank ≠ '-' ∧ ¬ blank.isDigit = true := by simp
    apply trimBlanks_of_notMem
    intro blank among member
    rw [Numeral.toList_toString_negSucc, List.mem_cons] at member
    rcases member with sign | member
    · exact (none blank among).1 sign
    · exact (none blank among).2 ((Numeral.figures_toDigits (value + 1)).all blank member)

theorem Element.readUInt64_eq_ok_iff {text : String} {value : UInt64} :
    Element.readUInt64 text = .ok value ↔ Numeral.Spells False text.toList value.toNat := by
  rw [Element.readUInt64, mapError_eq_ok, Numeral.readUInt64_eq_ok_iff]

theorem Element.readInt64_eq_ok_iff {text : String} {value : Int64} :
    Element.readInt64 text = .ok value ↔ Numeral.Spells True text.toList value.toInt := by
  rw [Element.readInt64, mapError_eq_ok, Numeral.readInt64_eq_ok_iff]

/-- Every unsigned number of 64 bits is read back from its figures. -/
theorem Element.readUInt64_toString (value : UInt64) :
    Element.readUInt64 (toString value.toNat) = .ok value :=
  readUInt64_eq_ok_iff.mpr (Numeral.spells_toString value.toNat (.inl (Int.natCast_nonneg _)))

end Markup

end SignedQueue

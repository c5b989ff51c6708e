import Mathlib
import SignedQueue.Text.Utf8
import SignedQueue.Proofs.Success
/-!
**Texts and their octets stand for each other.** A text is read back from its octets whatever
follows them, and octets that are read as a text are the ones that the text is written with.

* `Utf8.next_encodeChar`: a character is read from its octets;
* `Utf8.eq_encodeChar_of_next`: a character is read from no other octets;
* `Utf8.decode_eq_ok_iff`: octets are read as a text exactly if they are the octets of the text;
* `Utf8.toNat_of_mem_encodeChar`: an ASCII octet stands for nothing but an ASCII character;
* `Utf8.encode_lt_encode`: texts are in the order of their octets.
-/

namespace SignedQueue.Utf8

/-! ### Codes and octets -/

theorem toNat_octet {value : Nat} (small : value < 256) : (UInt8.ofNat value).toNat = value :=
  UInt8.toNat_ofNat_of_lt' small

theorem toNat_ofNat_of_code {code : Nat}
    (valid : code < 0xD800 ∨ 0xDFFF < code ∧ code < 0x110000) : (Char.ofNat code).toNat = code := by
  rw [Char.ofNat, dif_pos valid]
  rfl

/-! ### Reading what has been written -/

section Writing

variable {code seen more bits : Nat} {low high : UInt8}

/-- An octet within the bounds adds its six bits. -/
theorem continued_of_bits (rest : Octets) (small : bits < 64) (least : low.toNat ≤ 0x80 + bits)
    (most : 0x80 + bits ≤ high.toNat) :
    continued code seen low high (more + 1) (UInt8.ofNat (0x80 + bits) :: rest) =
      continued (code * 64 + bits) (seen + 1) 0x80 0xBF more rest := by
  have value : (UInt8.ofNat (0x80 + bits)).toNat = 0x80 + bits := toNat_octet (by omega)
  have inside : low ≤ UInt8.ofNat (0x80 + bits) ∧ UInt8.ofNat (0x80 + bits) ≤ high := by
    rw [UInt8.le_iff_toNat_le, UInt8.le_iff_toNat_le, value]
    exact ⟨least, most⟩
  rw [continued, if_pos inside, value]
  congr 2
  omega

/-- After the second octet only the six bits matter. -/
theorem continued_tail (rest : Octets) (small : bits < 64) :
    continued code seen 0x80 0xBF (more + 1) (UInt8.ofNat (0x80 + bits) :: rest) =
      continued (code * 64 + bits) (seen + 1) 0x80 0xBF more rest := by
  refine continued_of_bits rest small ?_ ?_
  · show 0x80 ≤ 0x80 + bits
    omega
  · show 0x80 + bits ≤ 0xBF
    omega

end Writing

/-- A character is read from its octets, whatever follows. -/
theorem next_encodeChar (character : Char) (rest : Octets) :
    next (encodeChar character ++ rest) = .char character rest := by
  have valid : character.toNat < 0xD800 ∨ 0xDFFF < character.toNat ∧ character.toNat < 0x110000 :=
    character.valid
  have back := Char.ofNat_toNat character
  unfold encodeChar
  generalize character.toNat = code at valid back ⊢
  dsimp only
  split_ifs with one two three
  · simp only [List.cons_append, List.nil_append, next]
    rw [toNat_octet (by omega), if_pos one, back]
  · have whole : code / 64 * 64 + code % 64 = code := by omega
    simp only [List.cons_append, List.nil_append, next]
    rw [toNat_octet (by omega), if_neg (by omega), if_neg (by omega), if_pos (by omega),
      Nat.add_sub_cancel_left, continued_tail _ (by omega), continued, whole, back]
  · have whole : (code / 4096 * 64 + code / 64 % 64) * 64 + code % 64 = code := by omega
    simp only [List.cons_append, List.nil_append, next]
    rw [toNat_octet (by omega), if_neg (by omega), if_neg (by omega), if_neg (by omega)]
    -- the bounds on the second octet depend on the first: they leave out short codes and surrogates
    by_cases short : code / 4096 = 0
    · rw [if_pos (by omega),
        continued_of_bits _ (by omega) (by show 0xA0 ≤ _; omega) (by show _ ≤ 0xBF; omega),
        continued_tail _ (by omega), continued, ← short, whole, back]
    rw [if_neg (by omega)]
    by_cases surrogates : code / 4096 = 0xD
    · rw [if_pos (by omega),
        continued_of_bits _ (by omega) (by show 0x80 ≤ _; omega) (by show _ ≤ 0x9F; omega),
        continued_tail _ (by omega), continued, ← surrogates, whole, back]
    · rw [if_neg (by omega), if_pos (by omega), Nat.add_sub_cancel_left,
        continued_tail _ (by omega), continued_tail _ (by omega), continued, whole, back]
  · have whole : ((code / 262144 * 64 + code / 4096 % 64) * 64 + code / 64 % 64) * 64 + code % 64 =
        code := by omega
    simp only [List.cons_append, List.nil_append, next]
    rw [toNat_octet (by omega), if_neg (by omega), if_neg (by omega), if_neg (by omega),
      if_neg (by omega), if_neg (by omega), if_neg (by omega)]
    by_cases short : code / 262144 = 0
    · rw [if_pos (by omega),
        continued_of_bits _ (by omega) (by show 0x90 ≤ _; omega) (by show _ ≤ 0xBF; omega),
        continued_tail _ (by omega), continued_tail _ (by omega), continued, ← short, whole, back]
    rw [if_neg (by omega)]
    by_cases last : code / 262144 = 4
    · rw [if_neg (by omega), if_pos (by omega),
        continued_of_bits _ (by omega) (by show 0x80 ≤ _; omega) (by show _ ≤ 0x8F; omega),
        continued_tail _ (by omega), continued_tail _ (by omega), continued, ← last, whole, back]
    · rw [if_pos (by omega), Nat.add_sub_cancel_left, continued_tail _ (by omega),
        continued_tail _ (by omega), continued_tail _ (by omega), continued, whole, back]

/-! ### Writing what has been read -/

section Reading

variable {code seen more : Nat} {low high : UInt8} {octets rest : Octets} {character : Char}

/-- A character that is not complete goes on with six bits within the bounds. -/
theorem bits_of_continued (least : 0x80 ≤ low.toNat) (most : high.toNat ≤ 0xBF)
    (read : continued code seen low high (more + 1) octets = .char character rest) :
    ∃ bits tail, octets = UInt8.ofNat (0x80 + bits) :: tail ∧
      (bits < 64 ∧ low.toNat ≤ 0x80 + bits ∧ 0x80 + bits ≤ high.toNat) ∧
        continued (code * 64 + bits) (seen + 1) 0x80 0xBF more tail = .char character rest := by
  cases octets with
  | nil => cases read
  | cons octet tail =>
    rw [continued] at read
    split_ifs at read with inside
    rw [UInt8.le_iff_toNat_le, UInt8.le_iff_toNat_le] at inside
    have value : octet.toNat % 64 = octet.toNat - 0x80 := by omega
    refine ⟨octet.toNat - 0x80, tail, ?_, by omega, value ▸ read⟩
    rw [show 0x80 + (octet.toNat - 0x80) = octet.toNat by omega, UInt8.ofNat_toNat]

theorem bits_of_continued_tail
    (read : continued code seen 0x80 0xBF (more + 1) octets = .char character rest) :
    ∃ bits tail, octets = UInt8.ofNat (0x80 + bits) :: tail ∧ bits < 64 ∧
      continued (code * 64 + bits) (seen + 1) 0x80 0xBF more tail = .char character rest := by
  obtain ⟨bits, tail, same, ⟨small, _⟩, read⟩ := bits_of_continued le_rfl le_rfl read
  exact ⟨bits, tail, same, small, read⟩

end Reading

section Sizes

variable {lead second third fourth : Nat}

theorem encodeChar_two (more : 2 ≤ lead) (less : lead < 32) (small : second < 64) :
    encodeChar (Char.ofNat (lead * 64 + second)) =
      [UInt8.ofNat (0xC0 + lead), UInt8.ofNat (0x80 + second)] := by
  have value : (Char.ofNat (lead * 64 + second)).toNat = lead * 64 + second :=
    toNat_ofNat_of_code (by omega)
  simp only [encodeChar, value]
  rw [if_neg (by omega), if_pos (by omega), show (lead * 64 + second) / 64 = lead by omega,
    show (lead * 64 + second) % 64 = second by omega]

theorem encodeChar_three (less : lead < 16) (small : second < 64) (tail : third < 64)
    (long : lead = 0 → 32 ≤ second) (noSurrogate : lead = 0xD → second < 32) :
    encodeChar (Char.ofNat ((lead * 64 + second) * 64 + third)) =
      [UInt8.ofNat (0xE0 + lead), UInt8.ofNat (0x80 + second), UInt8.ofNat (0x80 + third)] := by
  have value : (Char.ofNat ((lead * 64 + second) * 64 + third)).toNat =
      (lead * 64 + second) * 64 + third := toNat_ofNat_of_code (by omega)
  simp only [encodeChar, value]
  rw [if_neg (by omega), if_neg (by omega), if_pos (by omega),
    show ((lead * 64 + second) * 64 + third) / 4096 = lead by omega,
    show ((lead * 64 + second) * 64 + third) / 64 % 64 = second by omega,
    show ((lead * 64 + second) * 64 + third) % 64 = third by omega]

theorem encodeChar_four (less : lead ≤ 4) (small : second < 64) (tail : third < 64)
    (last : fourth < 64) (long : lead = 0 → 16 ≤ second) (most : lead = 4 → second < 16) :
    encodeChar (Char.ofNat (((lead * 64 + second) * 64 + third) * 64 + fourth)) =
      [UInt8.ofNat (0xF0 + lead), UInt8.ofNat (0x80 + second), UInt8.ofNat (0x80 + third),
        UInt8.ofNat (0x80 + fourth)] := by
  have value : (Char.ofNat (((lead * 64 + second) * 64 + third) * 64 + fourth)).toNat =
      ((lead * 64 + second) * 64 + third) * 64 + fourth := toNat_ofNat_of_code (by omega)
  simp only [encodeChar, value]
  rw [if_neg (by omega), if_neg (by omega), if_neg (by omega),
    show (((lead * 64 + second) * 64 + third) * 64 + fourth) / 262144 = lead by omega,
    show (((lead * 64 + second) * 64 + third) * 64 + fourth) / 4096 % 64 = second by omega,
    show (((lead * 64 + second) * 64 + third) * 64 + fourth) / 64 % 64 = third by omega,
    show (((lead * 64 + second) * 64 + third) * 64 + fourth) % 64 = fourth by omega]

end Sizes

/-- A character is read from its own octets only. -/
theorem eq_encodeChar_of_next {octets rest : Octets} {character : Char}
    (read : next octets = .char character rest) : octets = encodeChar character ++ rest := by
  cases octets with
  | nil => cases read
  | cons octet tail =>
    simp only [next] at read
    have below : octet.toNat < 256 := octet.toNat_lt
    -- the first octet is its base and the bits that it adds
    have lead (base bits : Nat) (sum : base + bits = octet.toNat) :
        UInt8.ofNat (base + bits) = octet := by
      rw [sum, UInt8.ofNat_toNat]
    split_ifs at read with one _ two e0 ed three f0 four f4
    · cases read
      have value : (Char.ofNat octet.toNat).toNat = octet.toNat := toNat_ofNat_of_code (by omega)
      simp only [encodeChar, value]
      rw [if_pos one, UInt8.ofNat_toNat]
      rfl
    · obtain ⟨second, tail, rfl, small, read⟩ := bits_of_continued_tail read
      cases read
      rw [encodeChar_two (by omega) (by omega) small, lead 0xC0 (octet.toNat - 0xC0) (by omega)]
      rfl
    · obtain ⟨second, tail, rfl, ⟨small, least, _⟩, read⟩ :=
        bits_of_continued (by decide) (by decide) read
      obtain ⟨third, tail, rfl, last, read⟩ := bits_of_continued_tail read
      cases read
      have long : 0xA0 ≤ 0x80 + second := least
      rw [encodeChar_three (by omega) small last (by omega) (by omega), lead 0xE0 0 (by omega)]
      rfl
    · obtain ⟨second, tail, rfl, ⟨small, _, most⟩, read⟩ :=
        bits_of_continued (by decide) (by decide) read
      obtain ⟨third, tail, rfl, last, read⟩ := bits_of_continued_tail read
      cases read
      have noSurrogate : 0x80 + second ≤ 0x9F := most
      rw [encodeChar_three (by omega) small last (by omega) (by omega), lead 0xE0 0xD (by omega)]
      rfl
    · obtain ⟨second, tail, rfl, small, read⟩ := bits_of_continued_tail read
      obtain ⟨third, tail, rfl, last, read⟩ := bits_of_continued_tail read
      cases read
      rw [encodeChar_three (by omega) small last (by omega) (by omega),
        lead 0xE0 (octet.toNat - 0xE0) (by omega)]
      rfl
    · obtain ⟨second, tail, rfl, ⟨small, least, _⟩, read⟩ :=
        bits_of_continued (by decide) (by decide) read
      obtain ⟨third, tail, rfl, smallThird, read⟩ := bits_of_continued_tail read
      obtain ⟨fourth, tail, rfl, last, read⟩ := bits_of_continued_tail read
      cases read
      have long : 0x90 ≤ 0x80 + second := least
      rw [encodeChar_four (by omega) small smallThird last (by omega) (by omega),
        lead 0xF0 0 (by omega)]
      rfl
    · obtain ⟨second, tail, rfl, small, read⟩ := bits_of_continued_tail read
      obtain ⟨third, tail, rfl, smallThird, read⟩ := bits_of_continued_tail read
      obtain ⟨fourth, tail, rfl, last, read⟩ := bits_of_continued_tail read
      cases read
      rw [encodeChar_four (by omega) small smallThird last (by omega) (by omega),
        lead 0xF0 (octet.toNat - 0xF0) (by omega)]
      rfl
    · obtain ⟨second, tail, rfl, ⟨small, _, most⟩, read⟩ :=
        bits_of_continued (by decide) (by decide) read
      obtain ⟨third, tail, rfl, smallThird, read⟩ := bits_of_continued_tail read
      obtain ⟨fourth, tail, rfl, last, read⟩ := bits_of_continued_tail read
      cases read
      have bounded : 0x80 + second ≤ 0x8F := most
      rw [encodeChar_four (by omega) small smallThird last (by omega) (by omega),
        lead 0xF0 4 (by omega)]
      rfl

/-! ### Texts -/

theorem continued_ne_done (code seen : Nat) (low high : UInt8) (more : Nat) (octets : Octets) :
    continued code seen low high more octets ≠ .done := by
  fun_induction continued code seen low high more octets with
  | case1 => simp
  | case2 => simp
  | case3 _ _ _ _ _ _ _ _ ih => exact ih
  | case4 => simp

theorem next_cons_ne_done (octet : UInt8) (rest : Octets) : next (octet :: rest) ≠ .done := by
  simp only [next]
  split_ifs <;> simp [continued_ne_done]

@[simp]
theorem encode_append (first second : String) :
    encode (first ++ second) = encode first ++ encode second := by
  simp [encode]

theorem charsFrom_of_char {octets rest : Octets} {character : Char} (index : Nat)
    (read : next octets = .char character rest) :
    charsFrom index octets =
      (charsFrom (index + character.utf8Size) rest).map (character :: ·) := by
  rw [charsFrom]
  split <;> simp_all

theorem lossyChars_of_char {octets rest : Octets} {character : Char}
    (read : next octets = .char character rest) :
    lossyChars octets = character :: lossyChars rest := by
  rw [lossyChars]
  split <;> simp_all

theorem charsFrom_flatMap (index : Nat) (characters : List Char) :
    charsFrom index (characters.flatMap encodeChar) = .ok characters := by
  induction characters generalizing index with
  | nil =>
    rw [List.flatMap_nil, charsFrom]
    rfl
  | cons character rest ih =>
    rw [List.flatMap_cons, charsFrom_of_char index (next_encodeChar character _), ih]
    rfl

theorem eq_flatMap_of_charsFrom {index : Nat} {octets : Octets} {characters : List Char}
    (read : charsFrom index octets = .ok characters) :
    octets = characters.flatMap encodeChar := by
  fun_induction charsFrom index octets generalizing characters with
  | case1 index octets done =>
    cases read
    cases octets with
    | nil => rfl
    | cons octet tail => exact absurd done (next_cons_ne_done octet tail)
  | case2 index octets character rest found _ ih =>
    obtain ⟨others, restRead, rfl⟩ := map_eq_ok.mp read
    rw [List.flatMap_cons, ← ih restRead]
    exact eq_encodeChar_of_next found
  | case3 => cases read
  | case4 => cases read

/-- Characters are read from their octets and from no others. -/
theorem chars_eq_ok_iff {octets : Octets} {characters : List Char} :
    chars octets = .ok characters ↔ octets = characters.flatMap encodeChar := by
  refine ⟨eq_flatMap_of_charsFrom, ?_⟩
  rintro rfl
  exact charsFrom_flatMap 0 characters

/-- A text is read from its octets and from no others. -/
theorem decode_eq_ok_iff {octets : Octets} {text : String} :
    decode octets = .ok text ↔ octets = encode text := by
  rw [decode, map_eq_ok, encode]
  constructor
  · rintro ⟨characters, read, rfl⟩
    rw [String.toList_ofList]
    exact chars_eq_ok_iff.mp read
  · intro same
    exact ⟨text.toList, chars_eq_ok_iff.mpr same, String.ofList_toList⟩

theorem encode_injective : Function.Injective encode := by
  intro first second same
  have read : decode (encode second) = .ok first := decode_eq_ok_iff.mpr same.symm
  rw [decode_eq_ok_iff.mpr rfl] at read
  exact (Except.ok.inj read).symm

theorem lossyChars_flatMap (characters : List Char) :
    lossyChars (characters.flatMap encodeChar) = characters := by
  induction characters with
  | nil =>
    rw [List.flatMap_nil, lossyChars]
    rfl
  | cons character rest ih =>
    rw [List.flatMap_cons, lossyChars_of_char (next_encodeChar character _), ih]

@[simp]
theorem lossy_encode (text : String) : lossy (encode text) = text := by
  rw [lossy, encode, lossyChars_flatMap, String.ofList_toList]

/-! ### ASCII -/

/-- An octet of an ASCII character is its code, and no other character has an ASCII octet. -/
theorem toNat_of_mem_encodeChar {character : Char} {octet : UInt8}
    (member : octet ∈ encodeChar character) :
    character.toNat < 0x80 ∧ octet.toNat = character.toNat ∨
      0x80 ≤ character.toNat ∧ 0x80 ≤ octet.toNat := by
  have valid : character.toNat < 0xD800 ∨ 0xDFFF < character.toNat ∧ character.toNat < 0x110000 :=
    character.valid
  unfold encodeChar at member
  generalize character.toNat = code at valid member ⊢
  dsimp only at member
  split_ifs at member with one
  · rw [List.mem_singleton] at member
    rw [member, toNat_octet (by omega)]
    exact .inl ⟨one, rfl⟩
  all_goals
    refine .inr ⟨by omega, ?_⟩
    simp only [List.mem_cons, List.not_mem_nil, or_false] at member
    rcases member with rfl | rfl | rfl | rfl
  all_goals
    rw [toNat_octet (by omega)]
    omega

/-- An octet of a character is that of an ASCII character only if it is this character. -/
theorem octet_eq_iff {character mark : Char} {octet : UInt8}
    (member : octet ∈ encodeChar character) (ascii : mark.toNat < 0x80) :
    octet = UInt8.ofNat mark.toNat ↔ character = mark := by
  have value : (UInt8.ofNat mark.toNat).toNat = mark.toNat := toNat_octet (by omega)
  rw [← UInt8.toNat_inj, value, ← Char.toNat_inj]
  rcases toNat_of_mem_encodeChar member with ⟨_, same⟩ | ⟨_, _⟩
  · rw [same]
  · omega

theorem encodeChar_ne_nil (character : Char) : encodeChar character ≠ [] := by
  unfold encodeChar
  dsimp only
  split_ifs <;> simp

/-! ### The order of texts -/

/-- Octets that put two numbers in order, whatever follows them. -/
def Ascends (octets : Nat → Octets) (low high : Nat) : Prop :=
  ∀ rest others, octets low ++ rest < octets high ++ others

theorem octet_lt {low high : Nat} (less : low < high) (small : high < 256) (rest others : Octets) :
    UInt8.ofNat low :: rest < UInt8.ofNat high :: others := by
  refine List.cons_lt_cons_iff.mpr (.inl ?_)
  rwa [UInt8.lt_iff_toNat_lt, toNat_octet (by omega), toNat_octet small]

/-- A further octet decides only where the ones before it are the same. -/
theorem Ascends.continued {lead : Nat → Octets} {low high : Nat} (less : low < high)
    (before : low / 64 < high / 64 → Ascends lead (low / 64) (high / 64)) :
    Ascends (fun code => lead (code / 64) ++ [UInt8.ofNat (0x80 + code % 64)]) low high := by
  intro rest others
  simp only [List.append_assoc]
  rcases Nat.lt_or_eq_of_le (Nat.div_le_div_right less.le) with earlier | same
  · exact before earlier _ _
  · rw [same]
    exact List.append_left_lt (octet_lt (by omega) (by omega) _ _)

/-- The octets of a character come before those of a later one, whatever follows them. -/
theorem encodeChar_lt {first second : Char} (less : first < second) (rest others : Octets) :
    encodeChar first ++ rest < encodeChar second ++ others := by
  have code : first.toNat < second.toNat := less
  have top : second.toNat < 0x110000 := by
    have valid : second.toNat < 0xD800 ∨ 0xDFFF < second.toNat ∧ second.toNat < 0x110000 :=
      second.valid
    omega
  unfold encodeChar
  generalize first.toNat = low at code ⊢
  generalize second.toNat = high at code top ⊢
  have lead (mark : Nat) {low high : Nat} (small : mark + high < 256) (less : low < high) :
      Ascends (fun code => [UInt8.ofNat (mark + code)]) low high :=
    fun _ _ => octet_lt (by omega) small _ _
  have twice (code : Nat) : code / 4096 = code / 64 / 64 := by omega
  have thrice (code : Nat) : code / 262144 = code / 64 / 64 / 64 := by omega
  dsimp only
  split_ifs
  -- fewer octets begin with a lesser one, and of as many the first that differ decide
  all_goals try exact octet_lt (by omega) (by omega) _ _
  · exact Ascends.continued code (lead 0xC0 (by omega)) _ _
  · rw [twice, twice]
    exact Ascends.continued code (Ascends.continued · (lead 0xE0 (by omega))) _ _
  · rw [thrice, thrice, twice, twice]
    exact Ascends.continued code
      (Ascends.continued · (Ascends.continued · (lead 0xF0 (by omega)))) _ _

theorem flatMap_encodeChar_lt {first second : List Char} (less : first < second) :
    first.flatMap encodeChar < second.flatMap encodeChar := by
  induction first generalizing second with
  | nil =>
    cases second with
    | nil => exact absurd less (List.lt_irrefl [])
    | cons character rest =>
      rw [List.flatMap_cons]
      cases octets : encodeChar character with
      | nil => exact absurd octets (encodeChar_ne_nil character)
      | cons octet others => exact List.nil_lt_cons _ _
  | cons character rest ih =>
    cases second with
    | nil => exact absurd less (List.not_lt_nil _)
    | cons other others =>
      rw [List.flatMap_cons, List.flatMap_cons]
      rcases List.cons_lt_cons_iff.mp less with earlier | ⟨rfl, later⟩
      · exact encodeChar_lt earlier _ _
      · exact List.append_left_lt (ih later)

/-- Texts are in the order of their octets. -/
theorem encode_lt_encode {first second : String} (less : first < second) :
    encode first < encode second :=
  flatMap_encodeChar_lt (String.lt_iff_toList_lt.mp less)

end SignedQueue.Utf8

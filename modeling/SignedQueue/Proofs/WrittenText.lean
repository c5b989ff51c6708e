import Mathlib
import SignedQueue.Markup.Tree
import SignedQueue.Proofs.Success
import SignedQueue.Proofs.TextOctets
/-!
**A text that is written into a document is read back without the blanks around it.** What the
writer makes of a character begins no tag, is white space only if the character is, and is read as
this character.

* `trimBlanks`: a text without the blanks on either side; `Unpadded` texts have none;
* `bracket_notMem_written`: no text that is written begins a tag;
* `trim_written`: the blanks around what is written are those around the text;
* `resolvedText_written`: what is written is read as the text.
-/

namespace SignedQueue.Markup

/-! ### Blanks around a text -/

/-- The characters that count as white space. -/
def isBlankChar (character : Char) : Bool :=
  character = ' ' || character = '\t' || character = '\r' || character = '\n'

/-- A text without the blanks on either side. -/
def trimBlanks (text : String) : String :=
  String.ofList ((text.toList.dropWhile isBlankChar).rdropWhile isBlankChar)

/-- A text that neither begins nor ends with a blank. -/
def Unpadded (text : String) : Prop :=
  (∀ first ∈ text.toList.head?, isBlankChar first = false) ∧
    ∀ last ∈ text.toList.getLast?, isBlankChar last = false

theorem dropWhile_eq_self_iff_head? {α : Type} {keep : α → Bool} {items : List α} :
    items.dropWhile keep = items ↔ ∀ first ∈ items.head?, keep first = false := by
  cases items with
  | nil => simp
  | cons item rest => simp [List.dropWhile_eq_self_iff]

theorem rdropWhile_eq_self_iff_getLast? {α : Type} {keep : α → Bool} {items : List α} :
    items.rdropWhile keep = items ↔ ∀ last ∈ items.getLast?, keep last = false := by
  rw [List.rdropWhile, List.reverse_eq_iff, dropWhile_eq_self_iff_head?, List.head?_reverse]

/-- A text stays as it is without the blanks around it if there are none. -/
theorem trimBlanks_eq_self_iff {text : String} : trimBlanks text = text ↔ Unpadded text := by
  rw [trimBlanks, String.ofList_eq, Unpadded, ← dropWhile_eq_self_iff_head?,
    ← rdropWhile_eq_self_iff_getLast?]
  constructor
  · intro same
    have suffix := List.dropWhile_suffix isBlankChar (l := text.toList)
    have start : text.toList.dropWhile isBlankChar = text.toList := by
      refine suffix.eq_of_length_le ?_
      calc text.toList.length
          = ((text.toList.dropWhile isBlankChar).rdropWhile isBlankChar).length := by rw [same]
        _ ≤ (text.toList.dropWhile isBlankChar).length :=
          (List.rdropWhile_prefix isBlankChar _).length_le
    exact ⟨start, by rwa [start] at same⟩
  · rintro ⟨start, finish⟩
    rw [start, finish]

theorem unpadded_of_forall {text : String}
    (inner : ∀ character ∈ text.toList, isBlankChar character = false) : Unpadded text :=
  ⟨fun _ first => inner _ (List.mem_of_head? first),
    fun _ last => inner _ (List.mem_of_getLast? last)⟩

/-- A text without any blank stays as it is. -/
theorem trimBlanks_of_notMem {text : String}
    (none : ∀ blank ∈ [' ', '\t', '\r', '\n'], blank ∉ text.toList) : trimBlanks text = text := by
  refine trimBlanks_eq_self_iff.mpr (unpadded_of_forall fun character member => ?_)
  rw [← Bool.not_eq_true]
  intro blank
  have among : character ∈ [' ', '\t', '\r', '\n'] := by
    simpa [isBlankChar, or_assoc] using blank
  exact none character among member

instance (text : String) : Decidable (Unpadded text) :=
  decidable_of_iff (trimBlanks text = text) trimBlanks_eq_self_iff

/-! ### Pieces that agree with what they stand for -/

section Pieces

variable {α β : Type} {leave : α → Bool} {leavePart : β → Bool} {pieces : α → List β}

/-- Where each item stands as some parts that are left out if the item is, the parts of the items
that remain are the parts that remain. -/
theorem dropWhile_flatMap (filled : ∀ item, pieces item ≠ [])
    (agree : ∀ item, ∀ part ∈ pieces item, leavePart part = leave item) (items : List α) :
    (items.flatMap pieces).dropWhile leavePart = (items.dropWhile leave).flatMap pieces := by
  induction items with
  | nil => rfl
  | cons item rest ih =>
    rw [List.flatMap_cons]
    by_cases left : leave item = true
    · rw [List.dropWhile_append_of_pos fun part member => (agree item part member).trans left, ih,
        List.dropWhile_cons_of_pos left]
    · obtain ⟨part, parts, same⟩ := List.exists_cons_of_ne_nil (filled item)
      have kept : ¬ leavePart part = true := by
        rw [agree item part (same ▸ List.mem_cons_self)]
        exact left
      rw [List.dropWhile_cons_of_neg left, List.flatMap_cons, same, List.cons_append,
        List.dropWhile_cons_of_neg kept]

theorem rdropWhile_flatMap (filled : ∀ item, pieces item ≠ [])
    (agree : ∀ item, ∀ part ∈ pieces item, leavePart part = leave item) (items : List α) :
    (items.flatMap pieces).rdropWhile leavePart = (items.rdropWhile leave).flatMap pieces := by
  have turned : (items.reverse.flatMap (List.reverse ∘ pieces)).dropWhile leavePart =
      (items.reverse.dropWhile leave).flatMap (List.reverse ∘ pieces) := by
    refine dropWhile_flatMap (fun item empty => ?_) (fun item part member => ?_) items.reverse
    · exact filled item (List.reverse_eq_nil_iff.mp empty)
    · exact agree item part (List.mem_reverse.mp member)
  rw [List.rdropWhile, List.reverse_flatMap, turned, List.rdropWhile, List.flatMap_reverse]

end Pieces

/-! ### What is written -/

/-- The octets of a character as it stands in a document. -/
def writtenChar (character : Char) : Octets :=
  (Reference.escapeChar character).flatMap Utf8.encodeChar

theorem encode_escape (text : String) :
    Utf8.encode (Reference.escape text) = text.toList.flatMap writtenChar := by
  rw [Utf8.encode, Reference.escape, String.toList_ofList, List.flatMap_assoc]
  rfl

/-- The five characters that are written by name. -/
def reserved : List Char :=
  ['<', '>', '&', '\'', '"']

theorem escapeChar_of_notMem {character : Char} (plain : character ∉ reserved) :
    Reference.escapeChar character = [character] := by
  unfold Reference.escapeChar
  split <;> simp_all [reserved]

/-- A reserved character stands as a name between an ampersand and a semicolon. -/
theorem escapeChar_of_mem {character : Char} (special : character ∈ reserved) :
    ∃ name, Reference.escapeChar character = '&' :: (name ++ [';']) ∧
      (';' ∉ name ∧ '&' ∉ name) ∧ ∀ first, Reference.meaning first name = .ok character := by
  simp only [reserved, List.mem_cons, List.not_mem_nil, or_false] at special
  rcases special with rfl | rfl | rfl | rfl | rfl
  · exact ⟨['l', 't'], rfl, by decide, fun _ => rfl⟩
  · exact ⟨['g', 't'], rfl, by decide, fun _ => rfl⟩
  · exact ⟨['a', 'm', 'p'], rfl, by decide, fun _ => rfl⟩
  · exact ⟨['a', 'p', 'o', 's'], rfl, by decide, fun _ => rfl⟩
  · exact ⟨['q', 'u', 'o', 't'], rfl, by decide, fun _ => rfl⟩

theorem writtenChar_ne_nil (character : Char) : writtenChar character ≠ [] := by
  have first {letter : Char} {rest : List Char} :
      (letter :: rest).flatMap Utf8.encodeChar ≠ [] := by
    simp [Utf8.encodeChar_ne_nil]
  unfold writtenChar
  by_cases special : character ∈ reserved
  · obtain ⟨name, same, _⟩ := escapeChar_of_mem special
    rw [same]
    exact first
  · rw [escapeChar_of_notMem special]
    exact first

theorem isBlank_of_mem_encodeChar {character : Char} {octet : UInt8}
    (member : octet ∈ Utf8.encodeChar character) : isBlank octet = isBlankChar character := by
  have space := Utf8.octet_eq_iff member (show ' '.toNat < 0x80 by decide)
  have tab := Utf8.octet_eq_iff member (show '\t'.toNat < 0x80 by decide)
  have carriage := Utf8.octet_eq_iff member (show '\r'.toNat < 0x80 by decide)
  have feed := Utf8.octet_eq_iff member (show '\n'.toNat < 0x80 by decide)
  rw [isBlank, isBlankChar, ← decide_eq_decide.mpr space, ← decide_eq_decide.mpr tab,
    ← decide_eq_decide.mpr carriage, ← decide_eq_decide.mpr feed]
  rfl

/-- An octet of a character as it stands begins no tag, and is a blank only if the character is. -/
theorem mem_writtenChar {character : Char} {octet : UInt8}
    (member : octet ∈ writtenChar character) :
    octet ≠ 60 ∧ isBlank octet = isBlankChar character := by
  by_cases special : character ∈ reserved
  · have all : reserved.all (fun character => (writtenChar character).all fun octet =>
        octet ≠ 60 ∧ isBlank octet = isBlankChar character) = true := by decide
    simp only [List.all_eq_true, decide_eq_true_eq] at all
    exact all character special octet member
  · rw [writtenChar, escapeChar_of_notMem special, List.flatMap_singleton] at member
    refine ⟨?_, isBlank_of_mem_encodeChar member⟩
    rintro rfl
    have bracket : character = '<' := (Utf8.octet_eq_iff member (by decide)).mp rfl
    exact special (bracket ▸ List.mem_cons_self)

/-- No text that is written begins a tag. -/
theorem bracket_notMem_written (text : String) : 60 ∉ Utf8.encode (Reference.escape text) := by
  rw [encode_escape, List.mem_flatMap]
  rintro ⟨character, _, member⟩
  exact (mem_writtenChar member).1 rfl

theorem written_eq_nil_iff {text : String} :
    Utf8.encode (Reference.escape text) = [] ↔ text = "" := by
  rw [encode_escape, List.flatMap_eq_nil_iff]
  constructor
  · intro empty
    refine String.toList_eq_nil_iff.mp (List.eq_nil_iff_forall_not_mem.mpr ?_)
    intro character member
    exact writtenChar_ne_nil character (empty character member)
  · rintro rfl
    simp

/-- The blanks around what is written are the blanks around the text. -/
theorem trim_written (text : String) :
    trim (Utf8.encode (Reference.escape text)) =
      Utf8.encode (Reference.escape (trimBlanks text)) := by
  have agree : ∀ character, ∀ octet ∈ writtenChar character,
      isBlank octet = isBlankChar character := fun _ _ member => (mem_writtenChar member).2
  rw [encode_escape, encode_escape, trimBlanks, String.toList_ofList,
    ← rdropWhile_flatMap writtenChar_ne_nil agree, ← dropWhile_flatMap writtenChar_ne_nil agree]
  rfl

/-! ### What is read -/

namespace Reference

theorem untilSemicolon_append {name after : List Char} (closed : ';' ∉ name ∧ '&' ∉ name) :
    untilSemicolon (name ++ ';' :: after) = some (name, after) := by
  induction name with
  | nil => rfl
  | cons letter rest ih =>
    simp only [List.mem_cons, not_or] at closed
    rw [List.cons_append, untilSemicolon, if_neg (Ne.symm closed.1.1), if_neg (Ne.symm closed.2.1),
      ih ⟨closed.1.2, closed.2.2⟩]
    rfl

theorem resolveFrom_reference {name after : List Char} {character : Char} (place last : Nat)
    (closed : ';' ∉ name ∧ '&' ∉ name) (meant : meaning (place + 1) name = .ok character) :
    resolveFrom place last ('&' :: (name ++ ';' :: after)) =
      (resolveFrom (place + octetCount name + 2) last after).map (character :: ·) := by
  rw [resolveFrom, if_pos rfl]
  split
  · rename_i missed
    rw [untilSemicolon_append closed] at missed
    cases missed
  · rename_i found
    rw [untilSemicolon_append closed] at found
    cases found
    rw [meant]

theorem resolveFrom_character {rest : List Char} {character : Char} (place last : Nat)
    (plain : character ≠ '&') :
    resolveFrom place last (character :: rest) =
      (resolveFrom (place + character.utf8Size) last rest).map (character :: ·) := by
  rw [resolveFrom, if_neg plain]

/-- What characters are written as is read as these characters. The places that are counted on the
way only matter to faults. -/
theorem resolveFrom_escapeChar (place last : Nat) (characters : List Char) :
    resolveFrom place last (characters.flatMap escapeChar) = .ok characters := by
  induction characters generalizing place with
  | nil => rw [List.flatMap_nil, resolveFrom]
  | cons character rest ih =>
    rw [List.flatMap_cons]
    by_cases special : character ∈ reserved
    · obtain ⟨name, same, closed, meant⟩ := escapeChar_of_mem special
      rw [same, List.cons_append, List.append_assoc]
      show resolveFrom place last ('&' :: (name ++ ';' :: rest.flatMap escapeChar)) = _
      rw [resolveFrom_reference place last closed (meant _), ih]
      rfl
    · have plain : character ≠ '&' := fun same => special (by rw [same]; decide)
      rw [escapeChar_of_notMem special, List.singleton_append,
        resolveFrom_character place last plain, ih]
      rfl

theorem resolve_escape (text : String) : resolve (escape text).toList = .ok text.toList := by
  rw [resolve, escape, String.toList_ofList]
  exact resolveFrom_escapeChar 0 _ text.toList

end Reference

/-- What a text is written as is read as this text. -/
theorem resolvedText_written (text : String) :
    Element.resolvedText (Utf8.encode (Reference.escape text)) = .ok text := by
  have characters : Utf8.chars (Utf8.encode (Reference.escape text)) =
      .ok (Reference.escape text).toList := Utf8.chars_eq_ok_iff.mpr rfl
  rw [Element.resolvedText, characters]
  show (do
    let resolved ← (Reference.resolve (Reference.escape text).toList).mapError _
    return String.ofList resolved : Except Element.Fault String) = _
  rw [Reference.resolve_escape]
  show Except.ok (String.ofList text.toList) = _
  rw [String.ofList_toList]

end SignedQueue.Markup

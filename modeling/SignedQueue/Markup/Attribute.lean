import SignedQueue.Markup.Event
/-!
**Attributes of a tag.** After the name of a tag come pairs `key="value"`. They are read one by one;
after a faulty one reading goes on, so that a later one can still be found.

* `Markup.attributes`: the attributes of a tag and the faults among them, in order;
* `Markup.AttributeFault`: why an attribute cannot be read, with its wording.
-/

namespace SignedQueue.Markup

/-- A key and its value, both as they stand. -/
structure Attribute where
  key : Octets
  value : Octets
  deriving Repr, DecidableEq

/-- Why an attribute cannot be read. Places are counted from the beginning of the tag's name. -/
inductive AttributeFault where
  | noEquals (place : Nat)
  | noValue (place : Nat)
  | unquoted (place : Nat)
  | unclosedQuote (place : Nat) (quote : UInt8)
  | repeated (place earlier : Nat)
  deriving Repr, DecidableEq

/-- The wording of a fault. -/
def AttributeFault.message : AttributeFault → String
  | .noEquals place =>
    s!"position {place}: attribute key must be directly followed by `=` or space"
  | .noValue place => s!"position {place}: `=` must be followed by an attribute value"
  | .unquoted place =>
    s!"position {place}: attribute value must be enclosed in `\"` or `'`"
  | .unclosedQuote place quote =>
    s!"position {place}: missing closing quote `" ++ String.ofList [Char.ofNat quote.toNat] ++
      "` in attribute value"
  | .repeated place earlier =>
    s!"position {place}: duplicated attribute, previous declaration at position {earlier}"

/-- What is read of one attribute: the attribute or its fault, its key and the key's place if the
key may not stand again, and what follows. -/
structure AttributeStep where
  outcome : Except AttributeFault Attribute
  key : Option (Octets × Nat)
  rest : Octets

/-- Reads the value after an equals sign. In a tag of `length` octets, the octet before `rest`
octets stands at `length - rest.length - 1`. -/
def readValue (length : Nat) (key rest : Octets) : Except AttributeFault Attribute × Octets :=
  match trimStart rest with
  | [] => (.error (.noValue length), [])
  | quote :: after =>
    if quote = 34 ∨ quote = 39 then
      if after.contains quote then
        (.ok ⟨key, after.takeWhile (· ≠ quote)⟩, (after.dropWhile (· ≠ quote)).drop 1)
      else (.error (.unclosedQuote length quote), [])
    else
      (.error (.unquoted (length - after.length - 1)),
        after.dropWhile fun octet => !isBlank octet)

/-- Reads one attribute. The first octet always belongs to the key, which ends before a blank or an
equals sign; a key among `earlier` may not stand again. -/
def readAttribute (length : Nat) (earlier : List (Octets × Nat)) (first : UInt8) (rest : Octets) :
    AttributeStep :=
  let key := first :: rest.takeWhile fun octet => octet ≠ 61 && !isBlank octet
  let place := length - rest.length - 1
  match trimStart (rest.dropWhile fun octet => octet ≠ 61 && !isBlank octet) with
  | [] => ⟨.error (.noEquals length), none, []⟩
  | octet :: after =>
    if octet = 61 then
      let (outcome, rest) := readValue length key after
      match earlier.find? (·.1 = key) with
      | some (_, before) => ⟨.error (.repeated place before), none, rest⟩
      | none => ⟨outcome, some (key, place), rest⟩
    else ⟨.error (.noEquals (length - after.length - 1)), none, octet :: after⟩

theorem dropWhile_length (test : UInt8 → Bool) (octets : Octets) :
    (octets.dropWhile test).length ≤ octets.length :=
  (List.dropWhile_suffix test).length_le

theorem readValue_length (length : Nat) (key rest : Octets) :
    (readValue length key rest).2.length ≤ rest.length := by
  unfold readValue trimStart
  have trimmed := dropWhile_length isBlank rest
  split
  · simp
  · rename_i quote after found
    rw [found] at trimmed
    simp only [List.length_cons] at trimmed
    have value := dropWhile_length (fun octet => decide (octet ≠ quote)) after
    have blank := dropWhile_length (fun octet => !isBlank octet) after
    repeat' split
    all_goals
      simp only [List.length_drop, List.length_nil]
      omega

theorem readAttribute_length (length : Nat) (earlier : List (Octets × Nat)) (first : UInt8)
    (rest : Octets) : (readAttribute length earlier first rest).rest.length ≤ rest.length := by
  unfold readAttribute trimStart
  have inner := dropWhile_length (fun octet => octet ≠ 61 && !isBlank octet) rest
  have trimmed :=
    dropWhile_length isBlank (rest.dropWhile fun octet => octet ≠ 61 && !isBlank octet)
  dsimp only
  split
  · simp
  · rename_i octet after found
    rw [found] at trimmed
    simp only [List.length_cons] at trimmed
    have value := readValue_length length
      (first :: rest.takeWhile fun octet => octet ≠ 61 && !isBlank octet) after
    repeat' split
    all_goals
      simp only [List.length_cons]
      omega

/-- The attributes in the rest of a tag of `length` octets, when the keys `earlier` stood before.
With `unique` a key may stand only once. -/
def attributesFrom (unique : Bool) (length : Nat) (earlier : List (Octets × Nat))
    (octets : Octets) : List (Except AttributeFault Attribute) :=
  match found : trimStart octets with
  | [] => []
  | first :: rest =>
    let step := readAttribute length earlier first rest
    have : step.rest.length < octets.length := by
      have shorter := readAttribute_length length earlier first rest
      have trimmed := dropWhile_length isBlank octets
      unfold trimStart at found
      rw [found] at trimmed
      simp only [List.length_cons] at trimmed
      exact Nat.lt_of_le_of_lt shorter (by omega)
    let earlier := if unique then step.key.toList ++ earlier else earlier
    step.outcome :: attributesFrom unique length earlier step.rest
termination_by octets.length

/-- The attributes of a tag and the faults among them, in order. -/
def attributes (unique : Bool) (tag : Tag) : List (Except AttributeFault Attribute) :=
  attributesFrom unique tag.content.length [] (tag.content.drop tag.name.length)

end SignedQueue.Markup

/-!
**Text compared without regard to ASCII case.** Header names are read this way: only the letters
`A` to `Z` have a second case, every other character is itself.

* `Ascii.lower`: a text with its ASCII letters in lower case;
* `Ascii.sameIgnoringCase`: equality of two texts up to ASCII case.
-/

namespace SignedQueue.Ascii

/-- A text with its ASCII letters in lower case. -/
def lower (text : String) : String :=
  String.ofList (text.toList.map Char.toLower)

/-- Whether two texts are equal up to ASCII case. -/
def sameIgnoringCase (first second : String) : Bool :=
  lower first == lower second

@[simp]
theorem sameIgnoringCase_iff {first second : String} :
    sameIgnoringCase first second = true ↔ lower first = lower second := by
  simp [sameIgnoringCase]

end SignedQueue.Ascii

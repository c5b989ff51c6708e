import SignedQueue.Text.Unprintable
/-!
**Quoted text.** Messages and logs show a text between double quotes, so that its ends and its
invisible characters can be seen.

* `Quoted.quote`: a text in quotes;
* `Quoted.quoteOption`: an optional text, `None` or `Some("..")`.
-/

namespace SignedQueue.Quoted

/-- The hexadecimal digits of a code, in lower case and without leading zeros. -/
def hex (code : Nat) : List Char :=
  Nat.toDigits 16 code

/-- One character as it stands between quotes: the quote and the backslash follow a backslash, four
controls have a letter, and a character without a mark of its own is given by its code. -/
def quoteChar (character : Char) : List Char :=
  match character with
  | '"' => ['\\', '"']
  | '\\' => ['\\', '\\']
  | '\n' => ['\\', 'n']
  | '\r' => ['\\', 'r']
  | '\t' => ['\\', 't']
  | '\x00' => ['\\', '0']
  | other =>
    if Unprintable.contains other then ['\\', 'u', '\x7b'] ++ hex other.toNat ++ ['\x7d']
    else [other]

/-- A text in double quotes. -/
def quote (text : String) : String :=
  String.ofList ('"' :: text.toList.flatMap quoteChar ++ ['"'])

/-- An optional text: `None`, or the quoted text in `Some(..)`. -/
def quoteOption : Option String → String
  | none => "None"
  | some text => "Some(" ++ quote text ++ ")"

end SignedQueue.Quoted

import Junction.Text.Printable

/-!
# Quoted text

Names and reasons appear in messages between double quotes. A quote, a backslash and the common
control characters are written with a backslash, every other character that shows nothing of its
own by its number in hexadecimal digits, and all else as it is.

## Main definitions

* `Text.hex` — a number in lower-case hexadecimal digits
* `Text.escape` — how one character is written inside quotes
* `Text.quoted` — a text with its quotes
* `Text.leftAligned` — a text filled up with blanks to a width
-/

namespace Junction.Text

/-- The lower-case hexadecimal digits of a number. -/
def hex (n : Nat) : String := .ofList (Nat.toDigits 16 n)

/-- A character as it is written between quotes. -/
def escape (c : Char) : String :=
  match c with
  | '"' => "\\\""
  | '\\' => "\\\\"
  | '\n' => "\\n"
  | '\r' => "\\r"
  | '\t' => "\\t"
  | '\x00' => "\\0"
  | c => if printable c then c.toString else "\\u\x7b" ++ hex c.toNat ++ "\x7d"

/-- A text between double quotes, each character escaped where it must be. -/
def quoted (text : String) : String :=
  "\"" ++ String.join (text.toList.map escape) ++ "\""

/-- A text followed by blanks up to a width; a longer text stays as it is. -/
def leftAligned (width : Nat) (text : String) : String :=
  text.pushn ' ' (width - text.length)

end Junction.Text

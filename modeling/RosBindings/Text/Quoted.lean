import RosBindings.Text.Printable

/-!
# Quoted text

How a text is shown inside a message: between single quotes, or between double quotes
when it holds a single quote and no double one. The quote in use and the backslash are
escaped by a backslash; tab, line feed and carriage return have letters of their own;
every other character that is not printable is written by its code point, in two, four
or eight hexadecimal digits.
-/

namespace RosBindings.Text

/-- The quote character for a text. -/
def quoteFor (t : Text) : Char :=
  if t.contains '\'' && !t.contains '"' then '"' else '\''

/-- A number in hexadecimal, filled up with zeros on the left. -/
def hexPadded (width n : Nat) : Text :=
  let digits := Nat.toDigits 16 n
  List.replicate (width - digits.length) '0' ++ digits

/-- A character by its code point. -/
def escapedCodePoint (n : Nat) : Text :=
  if n ≤ 0xFF then "\\x" ++ hexPadded 2 n
  else if n ≤ 0xFFFF then "\\u" ++ hexPadded 4 n
  else "\\U" ++ hexPadded 8 n

/-- A character between the given quotes. -/
def quotedChar (quote c : Char) : Text :=
  if c = quote ∨ c = '\\' then ['\\', c]
  else if c = '\t' then "\\t"
  else if c = '\n' then "\\n"
  else if c = '\r' then "\\r"
  else if isPrintable c then [c]
  else escapedCodePoint c.toNat

/-- A text between quotes. -/
def quoted (t : Text) : Text :=
  let quote := quoteFor t
  quote :: t.flatMap (quotedChar quote) ++ [quote]

end RosBindings.Text

import RosBindings.Text.Basic

/-!
# Blank characters

The blank characters are the white space of Unicode together with the four
information separators U+001C to U+001F; the zero width ones are not blank.
-/

namespace RosBindings.Text

/-- Ranges of blank characters, both ends included. -/
def blankRanges : List (Nat × Nat) :=
  [(0x09, 0x0D), (0x1C, 0x20), (0x85, 0x85), (0xA0, 0xA0), (0x1680, 0x1680), (0x2000, 0x200A),
   (0x2028, 0x2029), (0x202F, 0x202F), (0x205F, 0x205F), (0x3000, 0x3000)]

/-- Whether a character is blank. -/
def isBlank (c : Char) : Bool :=
  blankRanges.any fun (lo, hi) => lo ≤ c.toNat && c.toNat ≤ hi

/-- The text without blanks at its start. -/
def trimStart (t : Text) : Text := trimStartBy isBlank t

/-- The text without blanks at either end. -/
def trim (t : Text) : Text := trimBy isBlank t

/-- The blanks a text starts with. -/
def indentation (t : Text) : Text := t.takeWhile isBlank

end RosBindings.Text

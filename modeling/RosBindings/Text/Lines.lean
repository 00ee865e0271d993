import RosBindings.Text.Basic

/-!
# Lines

Three notions of a line live side by side.

* `lines` breaks a source text at every line break of Unicode; a break at the very
  end opens no further line.
* `rows` breaks generated text at line feeds only and keeps the last, empty row.
* `unifyBreaks` is what reading a file as text does first: a carriage return, alone
  or before a line feed, becomes a line feed.
-/

namespace RosBindings.Text

/-- The characters that end a line of a source text. -/
def isBreak (c : Char) : Bool :=
  let n := c.toNat
  (0x0A ≤ n && n ≤ 0x0D) || (0x1C ≤ n && n ≤ 0x1E) || n == 0x85 || n == 0x2028 || n == 0x2029

/-- The lines of a source text, without their line breaks. -/
def lines : Text → List Text
  | [] => []
  | '\r' :: '\n' :: cs => [] :: lines cs
  | c :: cs =>
    if isBreak c then [] :: lines cs
    else match lines cs with
      | [] => [[c]]
      | l :: ls => (c :: l) :: ls

/-- The rows of a generated text: what stands between its line feeds. -/
def rows (t : Text) : List Text := pieces (· == '\n') t

/-- Rows put together again. -/
def unrows (rs : List Text) : Text := join ['\n'] rs

/-- Every carriage return, with the line feed after it if there is one, becomes one
line feed. -/
def unifyBreaks : Text → Text
  | [] => []
  | '\r' :: '\n' :: cs => '\n' :: unifyBreaks cs
  | c :: cs => (if c = '\r' then '\n' else c) :: unifyBreaks cs

end RosBindings.Text

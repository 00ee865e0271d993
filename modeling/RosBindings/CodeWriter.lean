import RosBindings.Text.Lines

/-!
# Code writer

Rows of source code under the indentation of the blocks that are open. An empty row
stays empty at every depth.
-/

namespace RosBindings

/-- The rows written so far, and how deep the next one stands. -/
structure CodeWriter where
  unit : Text := "    "
  level : Nat := 0
  written : List Text := []
  deriving DecidableEq, Repr

namespace CodeWriter

/-- A row at the given depth. -/
def indent (unit : Text) (level : Nat) (row : Text) : Text :=
  if row.isEmpty then [] else (List.replicate level unit).flatten ++ row

/-- Writes one row. -/
def row (w : CodeWriter) (r : Text) : CodeWriter :=
  { w with written := w.written ++ [indent w.unit w.level r] }

/-- Writes every row of a text. -/
def block (w : CodeWriter) (t : Text) : CodeWriter :=
  { w with written := w.written ++ (Text.rows t).map (indent w.unit w.level) }

/-- Writes a row and goes one block deeper. -/
def openBlock (w : CodeWriter) (r : Text) : CodeWriter :=
  let w := w.row r
  { w with level := w.level + 1 }

/-- Leaves a block, the outermost one excepted, and writes a row. -/
def closeBlock (w : CodeWriter) (r : Text) : CodeWriter :=
  { w with level := w.level - 1 }.row r

/-- The source text. -/
def text (w : CodeWriter) : Text := Text.unrows w.written ++ ['\n']

end CodeWriter

end RosBindings

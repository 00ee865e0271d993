import RosBindings.FieldType
import RosBindings.Text.Blank

/-!
# Lines of a definition

Every line of a definition is blank, a comment, or declares a field; which of the
three is decided by the line alone.

* `Line.normalize` trims the lines and drops the blank ones at the top.
* `FieldLine.parse` reads `type name`, `type name value` or `type name=value`, with a
  comment behind a hash sign. Blanks and equals signs part the tokens after the type,
  but not the type itself, which may hold a bound such as `string<=10`.
* `FieldLine.intValue` is the value of an integer constant.
-/

namespace RosBindings

/-- What a line of a definition is. -/
inductive LineKind
  | blank
  | comment
  | field
  deriving DecidableEq, Repr

/-- Why a field line is refused. -/
inductive LineError
  /-- Fewer than two tokens stand before the comment of this line. -/
  | incomplete (line : Text)
  /-- The value is an integer that is not read as a number. -/
  | value (error : NumeralError)
  /-- The type token is refused. -/
  | type (error : TypeError)
  deriving DecidableEq, Repr

/-- What is said about a refused field line. -/
def LineError.message : LineError → Text
  | .incomplete line => "Cannot parse field declaration '" ++ line ++ "'"
  | .value error => error.message
  | .type error => error.message

namespace Line

/-- The kind of a line. -/
def kind (line : Text) : LineKind :=
  match Text.trim line with
  | [] => .blank
  | '#' :: _ => .comment
  | _ => .field

/-- Whether a line declares a field. -/
def isField (line : Text) : Bool := kind line == .field

/-- Whether a line is a comment. -/
def isComment (line : Text) : Bool := kind line == .comment

/-- Whether a line is blank. -/
def isBlank (line : Text) : Bool := kind line == .blank

/-- Trims every line and drops the blank ones at the top. -/
def normalize (lines : List Text) : List Text :=
  (lines.map Text.trim).dropWhile List.isEmpty

/-- The text without one leading hash sign and the blanks after it. -/
def dropHash : Text → Text
  | '#' :: cs => Text.trimStart cs
  | cs => cs

/-- The text of a comment. -/
def cleanComment (t : Text) : Text := Text.trim (dropHash (Text.trim t))

/-- What stands before the first hash sign. -/
def body (line : Text) : Text := line.takeWhile (· ≠ '#')

/-- The comment behind the first hash sign, empty without one. -/
def inlineComment (line : Text) : Text := cleanComment ((line.dropWhile (· ≠ '#')).drop 1)

end Line

/-- The tokens of a field line. -/
structure FieldLine where
  typeToken : Text
  name : Text
  value : Text
  inlineComment : Text
  deriving DecidableEq, Repr

namespace FieldLine

/-- Blanks and equals signs part the tokens after the type. -/
def isSeparator (c : Char) : Bool := c == '=' || Text.isBlank c

/-- The tokens of a field line: its first word, then what the separators leave. -/
def tokens (line : Text) : List Text :=
  match Text.trimStart (Line.body line) with
  | [] => []
  | t => t.takeWhile (!Text.isBlank ·) :: Text.words isSeparator (t.dropWhile (!Text.isBlank ·))

/-- Reads a field line. -/
def parse (line : Text) : Except LineError FieldLine :=
  match tokens line with
  | typeToken :: name :: rest => .ok ⟨typeToken, name, rest.headD [], Line.inlineComment line⟩
  | _ => .error (.incomplete (Text.trim line))

/-- The text without one leading plus sign. -/
def dropPlus : Text → Text
  | '+' :: cs => cs
  | cs => cs

/-- Whether a value is written as a natural number, with or without a plus sign. -/
def isInteger (value : Text) : Bool :=
  let digits := dropPlus value
  !digits.isEmpty && digits.all Text.isDecimal

/-- The value as a natural number, if it is written as one. -/
def intValue (line : FieldLine) : Except NumeralError (Option Nat) :=
  if isInteger line.value then (Numeral.read (dropPlus line.value)).map some else .ok none

end FieldLine

end RosBindings

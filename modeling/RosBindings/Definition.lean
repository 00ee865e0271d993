import RosBindings.Line

/-!
# Message definitions

A definition is read from its lines in two passes. The first one tells blank lines,
comments and fields apart; the second one decides whom the comments document and
groups integer constants into enumerations.

* Comments at the top, up to the first blank line, document the message. If there are
  several fields and no comment between or after them, everything above the first
  field does.
* Any other comment documents the next field, together with the comment behind it.
* A constant 0 opens an enumeration, and the constants 1, 2, … join the open one in
  turn, whatever stands between them. All other declarations are fields.
-/

namespace RosBindings

/-- A declared field or constant. -/
structure Declaration where
  name : Text
  typeToken : Text
  type : FieldType
  value : Text
  comment : Text
  deriving DecidableEq, Repr

/-- The number that a constant of an enumeration stands for. -/
def Declaration.ordinal (d : Declaration) : Nat := Numeral.value (FieldLine.dropPlus d.value)

/-- A message definition: its fields, and the enumerations among its constants. -/
structure Definition where
  name : Text
  comment : Text := []
  fields : List Declaration := []
  enums : List (List Declaration) := []
  deriving DecidableEq, Repr

/-- A declaration being sorted: its integer value decides where it goes. -/
structure Constant where
  declaration : Declaration
  intValue : Option Nat
  deriving DecidableEq, Repr

/-- Declarations sorted so far. The open enumeration takes the constant that equals
its length. -/
structure Grouping where
  fields : List Declaration := []
  closed : List (List Declaration) := []
  open? : Option (List Declaration) := none
  deriving DecidableEq, Repr

namespace Grouping

/-- Sorts one more declaration. -/
def add (g : Grouping) (c : Constant) : Grouping :=
  match c.intValue, g.open? with
  | some 0, _ => { g with closed := g.closed ++ g.open?.toList, open? := some [c.declaration] }
  | some n, some members =>
    if n = members.length then { g with open? := some (members ++ [c.declaration]) }
    else { g with fields := g.fields ++ [c.declaration] }
  | _, _ => { g with fields := g.fields ++ [c.declaration] }

/-- Sorts declarations in turn. -/
def ofList (cs : List Constant) : Grouping := cs.foldl add {}

/-- All enumerations in the order of their first constants. -/
def enums (g : Grouping) : List (List Declaration) := g.closed ++ g.open?.toList

end Grouping

namespace Definition

/-- Comment lines as one text. -/
def joinComments (lines : List Text) : Text :=
  Text.trim (Text.join ['\n'] (lines.map Line.cleanComment))

/-- The lines that document the message, and the lines after them. Both are taken from
normalized lines with a field among them. -/
def splitPreamble (lines : List Text) : List Text × List Text :=
  let beforeField := lines.takeWhile (!Line.isField ·)
  let fromField := lines.dropWhile (!Line.isField ·)
  let several := 1 < (lines.filter Line.isField).length
  if several && !fromField.any Line.isComment then (beforeField, fromField)
  else
    let block := beforeField.takeWhile (!Line.isBlank ·)
    if block.length < beforeField.length then (block, lines.drop block.length)
    else ([], lines)

/-- Reads one field line under the comments gathered above it. -/
def readField (runtime : Text) (comments : List Text) (line : Text) :
    Except LineError Constant :=
  match FieldLine.parse line with
  | .error e => .error e
  | .ok field =>
    match field.intValue with
    | .error e => .error (.value e)
    | .ok intValue =>
      match FieldType.ofToken runtime field.typeToken with
      | .error e => .error (.type e)
      | .ok type =>
        let inline := if field.inlineComment.isEmpty then [] else [field.inlineComment]
        let comment := Text.trim (Text.join ['\n'] (comments ++ inline))
        .ok ⟨⟨field.name, field.typeToken, type, field.value, comment⟩, intValue⟩

/-- Reads the lines after the preamble; `comments` are the cleaned comments above the
next field. -/
def readBody (runtime : Text) (comments : List Text) :
    List Text → Except LineError (List Constant)
  | [] => .ok []
  | line :: lines =>
    match Line.kind line with
    | .blank => readBody runtime comments lines
    | .comment => readBody runtime (comments ++ [Line.cleanComment line]) lines
    | .field =>
      match readField runtime comments line with
      | .error e => .error e
      | .ok constant => (readBody runtime [] lines).map (constant :: ·)

/-- Reads a definition from its raw lines. -/
def parse (rawLines : List Text) (name runtime : Text) : Except LineError Definition :=
  let lines := Line.normalize rawLines
  if !lines.any Line.isField then .ok { name }
  else
    let (preamble, body) := splitPreamble lines
    (readBody runtime [] body).map fun constants =>
      let grouping := Grouping.ofList constants
      { name
        comment := joinComments preamble
        fields := grouping.fields
        enums := grouping.enums }

/-- The number of comment lines below the last field, which document nothing. -/
def trailingComments (rawLines : List Text) : Nat :=
  ((rawLines.reverse.takeWhile (!Line.isField ·)).filter Line.isComment).length

/-- What is worth noting about a definition that was read from the given lines. -/
def notes (rawLines : List Text) (d : Definition) : List Text :=
  if !rawLines.any Line.isField then ["Definition " ++ d.name ++ " has no fields"]
  else
    let dropped := trailingComments rawLines
    let trailing :=
      if dropped = 0 then []
      else ["Dropping " ++ Text.ofNat dropped ++ " trailing comment line(s) in " ++ d.name]
    trailing ++ ["Parsed " ++ d.name ++ ": " ++ Text.ofNat d.fields.length ++ " field(s), "
      ++ Text.ofNat d.enums.length ++ " enum(s)"]

end Definition

end RosBindings

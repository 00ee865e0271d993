import RosBindings.Template.Scope

/-!
# Layout of a template

Before it is written, a template is laid out in rows, block inside block. The layout has
two limits, and a template that is beyond one of them is refused with the row where it
is.

* A scope has a row for each name that it looks up.
* Plain text and constants next to each other share a row; every other value has its own.
* At most `maxBlocks` blocks and at most `maxLoops` loops stand inside one another. The
  first limit is looked at first.
-/

namespace RosBindings.Template

/-- The greatest number of blocks inside one another. -/
def maxBlocks : Nat := 98

/-- The greatest number of loops inside one another. -/
def maxLoops : Nat := 20

/-- The row that a layout starts its names at. -/
def firstRow : Nat := 10

/-- A layout under way. -/
structure Layout where
  /-- The next row. -/
  next : Nat
  /-- Whether the row before it takes more plain text. -/
  takesText : Bool
  /-- The first row of the first block inside too many others. -/
  deep : Option Nat
  /-- The row of the first loop inside too many others. -/
  loop : Option Nat
  deriving DecidableEq, Repr

namespace Layout

/-- Puts plain text into the layout. -/
def text (l : Layout) : Layout :=
  if l.takesText then l else { l with next := l.next + 1, takesText := true }

/-- Puts a value into the layout. -/
def value (l : Layout) : Layout := { l with next := l.next + 1, takesText := false }

/-- Opens a block, whose head is in row `head` and whose text starts `rows` rows further
on. `blocks` and `loops` count the blocks and loops around that text. -/
def openBlock (l : Layout) (head rows blocks loops : Nat) : Layout :=
  { next := head + rows
    takesText := false
    deep := l.deep <|> if maxBlocks < blocks then some (head + 1) else none
    loop := l.loop <|> if maxLoops < loops then some head else none }

/-- Closes a block, which takes `rows` rows. -/
def closeBlock (l : Layout) (rows : Nat) : Layout :=
  { l with next := l.next + rows, takesText := false }

mutual

/-- Lays out a node inside so many blocks and loops, where some names are known. -/
def node (known : List Text) (blocks loops : Nat) (l : Layout) : Node → Layout
  | .char _ => l.text
  | .value name => if isLiteral name then l.text else l.value
  | .each item _ body =>
    let own := loopNames item body
    let fresh := freshNames (own ++ known) body
    -- a loop that its body speaks of has a row before its head
    let head := l.next + (own.length - 1)
    (nodes (own ++ fresh ++ known) (blocks + 1) (loops + 1)
      (l.openBlock head (fresh.length + 3) (blocks + 1) (loops + 1)) body).closeBlock 1
  | .when _ body =>
    (nodes known (blocks + 1) loops (l.openBlock l.next 2 (blocks + 1) loops) body).closeBlock 0

/-- Lays out nodes one after the other. -/
def nodes (known : List Text) (blocks loops : Nat) (l : Layout) : List Node → Layout
  | [] => l
  | n :: ns => nodes known blocks loops (node known blocks loops l n) ns

end

/-- Lays out a whole template, which binds some names of its own. -/
def ofTemplate (own : List Text) (template : List Node) : Layout :=
  let fresh := freshNames own template
  nodes (own ++ fresh) 0 0 ⟨firstRow + own.length + fresh.length + 1, false, none, none⟩ template

/-- The fault of a layout in a file. -/
def fault? (l : Layout) (file : Text) : Option Fault :=
  match l.deep, l.loop with
  | some row, _ => some (.tooDeep file row)
  | none, some row => some (.tooManyLoops file row)
  | none, none => none

end Layout

end RosBindings.Template

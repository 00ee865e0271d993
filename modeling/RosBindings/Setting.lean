import RosBindings.Text.Basic

/-!
# Settings

A setting on the command line is a word. Two hyphens in the place of the word leave an
empty list instead, and it depends on the setting what can be done with that.

* Where a setting is only written, the list is written with its brackets.
* Where a setting is looked into, the list is of no use; `EmptySetting` tells where.
-/

namespace RosBindings

/-- What a setting is set to. -/
inductive Setting
  | word (text : Text)
  | empty
  deriving DecidableEq, Repr

namespace Setting

/-- Two hyphens stand for the empty list. -/
def emptyWord : Text := "--"

/-- The setting a word of the command line stands for. -/
def ofWord (t : Text) : Setting := if t = emptyWord then .empty else .word t

/-- A setting as it is written. -/
def shown : Setting → Text
  | .word t => t
  | .empty => "[]"

/-- The word of a setting. -/
def word? : Setting → Option Text
  | .word t => some t
  | .empty => none

end Setting

/-- Where an empty setting is of no use. -/
inductive EmptySetting
  /-- As the folder to write to. -/
  | outputFolder
  /-- As the runtime package that the type of a field is looked for in. -/
  | runtime
  /-- As a package that is looked for in a folder. -/
  | package
  /-- As a message to generate. -/
  | identifier
  deriving DecidableEq, Repr

/-- What is said about an empty setting. -/
def EmptySetting.message : EmptySetting → Text
  | .outputFolder => "expected str, bytes or os.PathLike object, not list"
  | .runtime => "unhashable type: 'list'"
  | .package => "'list' object has no attribute 'strip'"
  | .identifier => "'list' object has no attribute 'replace'"

end RosBindings

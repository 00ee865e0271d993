import RosBindings.Definition
import RosBindings.Text.Lines

/-!
# Documentation comments

The rows of a documentation comment. What would end the comment early is written with
a character reference for the slash.
-/

namespace RosBindings.JavaClass

/-- Text that does not end a comment. -/
def escapeEnd : Text → Text
  | [] => []
  | '*' :: '/' :: cs => "*&#47;" ++ escapeEnd cs
  | c :: cs => c :: escapeEnd cs

/-- The rows of a comment. -/
def javadocRows (t : Text) : List Text := (Text.rows t).map escapeEnd

/-- The comment of the class. -/
def classComment (d : Definition) : Text :=
  let title : Text := "Definition for " ++ d.name
  if (Text.trim d.comment).isEmpty then title else title ++ "\n\n<p>" ++ d.comment

end RosBindings.JavaClass

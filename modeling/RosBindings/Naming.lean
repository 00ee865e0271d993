import RosBindings.Path
import RosBindings.Text.Blank
import RosBindings.Text.Upper

/-!
# Names of classes and accessors

A message is generated under the name of the last segment of its path, in camel case
and with `Message` behind it. Camel case changes the first character of every word
only: `frame_ID` becomes `FrameID`.
-/

namespace RosBindings.Naming

/-- Underscores, hyphens and blanks part the words of a name. -/
def isSeparator (c : Char) : Bool := c == '_' || c == '-' || Text.isBlank c

/-- A word with a capital first character. -/
def capitalize : Text → Text
  | [] => []
  | c :: cs => Text.upper c ++ cs

/-- A name in camel case. -/
def camelCase (t : Text) : Text := (Text.words isSeparator t).flatMap capitalize

/-- The extension of a definition file. -/
def extension : Text := ".msg"

/-- Both kinds of slash part the segments of a message path. -/
def unifySlashes (t : Text) : Text := t.map fun c => if c = '\\' then '/' else c

/-- The last segment of a message path, without the extension. -/
def baseName (path : Text) : Text :=
  let name := (Path.ofText (unifySlashes path)).name
  (Text.beforeSuffix? extension name).getD name

/-- What every class name ends in. -/
def classSuffix : Text := "Message"

/-- The class generated for a message path. -/
def className (path : Text) : Text := camelCase (baseName path) ++ classSuffix

/-- The accessor of a field, named by what it does. -/
def accessorName (verb field : Text) : Text := verb ++ camelCase field

end RosBindings.Naming

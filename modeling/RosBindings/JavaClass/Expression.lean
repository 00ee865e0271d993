import RosBindings.Definition
import RosBindings.Placeholder

/-!
# Expressions over the fields

What the annotation and the methods of a class say about each field.
-/

namespace RosBindings.JavaClass

/-- A string literal. -/
def literal (t : Text) : Text := ['"'] ++ t ++ ['"']

/-- What a field adds to the hash of an object. -/
def hashExpression (f : Declaration) : Text :=
  if f.type.arity.isArray then "Arrays.hashCode(" ++ f.name ++ ")" else f.name

/-- How a field is compared with that of another object. -/
def equalsExpression (f : Declaration) : Text :=
  if f.type.arity.isArray then "Arrays.equals(" ++ f.name ++ ", other." ++ f.name ++ ")"
  else if f.type.kind = .primitive then f.name ++ " == other." ++ f.name
  else "Objects.equals(" ++ f.name ++ ", other." ++ f.name ++ ")"

/-- How a field is shown. -/
def textExpression (f : Declaration) : Text := literal f.name ++ ", " ++ f.name

/-- The items of the annotation: the name, the fields when there are several, and the
checksum when it is shown. -/
def metadataItems (d : Definition) (showsChecksum : Bool) : List Text :=
  let names := Text.join ", " (d.fields.map fun f => literal f.name)
  ("name = " ++ Placeholder.written "className" ++ ".NAME")
    :: (if 1 < d.fields.length then ["fields = \x7b " ++ names ++ " \x7d"] else [])
    ++ (if showsChecksum then ["md5sum = " ++ literal (Placeholder.written "md5sum")] else [])

end RosBindings.JavaClass

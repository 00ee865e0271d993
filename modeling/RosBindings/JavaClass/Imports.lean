import RosBindings.Definition
import RosBindings.Text.Order

/-!
# Imports of a class

Every class imports the message types of the runtime, the classes of its fields as far
as they have a path, and what its methods need. Enumerations need nothing.
-/

namespace RosBindings.JavaClass

/-- Needed by array fields. -/
def arraysImport : Text := "java.util.Arrays"

/-- Needed by the methods of a class with fields. -/
def objectsImport : Text := "java.util.Objects"

/-- Needed by the methods of a class with fields. -/
def jsonImport : Text := "id.xfunction.XJson"

/-- The path a field is imported under. -/
def importPath? (f : Declaration) : Option Text := f.type.importPath.filter (!·.isEmpty)

/-- What a field needs. -/
def fieldImports (f : Declaration) : List Text :=
  (if f.type.arity.isArray then [arraysImport] else []) ++ (importPath? f).toList

/-- All imports of a class, in increasing order. -/
def imports (runtime : Text) (d : Definition) : List Text :=
  Text.sortedSet <|
    [runtime ++ ".Message", runtime ++ ".MessageMetadata"]
      ++ d.fields.flatMap fieldImports
      ++ (if d.fields.isEmpty then [] else [objectsImport, jsonImport])

/-- What is worth noting about the imports: the fields without one. -/
def importNotes (d : Definition) : List Text :=
  (d.fields.filter fun f => (importPath? f).isNone).map fun f =>
    "No import for field " ++ f.name ++ " of type " ++ f.typeToken

end RosBindings.JavaClass

import RosBindings.CodeWriter
import RosBindings.Failure
import RosBindings.JavaClass.Expression
import RosBindings.JavaClass.Imports
import RosBindings.JavaClass.Javadoc

/-!
# Text of a class

A class is written section by section from its fragments. Values of a field are put in
while its section is written; the values of the whole class (its name, the name of the
message, the checksum) are put in once, over the complete text.

* `build` writes all sections and moves the class through its stages.
* `render` is the text of the class.
* The size of an array is written with all its digits. Sizes that are read have at most
  `Numeral.maxDigits`, and a definition that is made by hand has to keep to that limit: a
  longer number has no text, and so the class has none.
-/

namespace RosBindings.JavaClass

/-- How classes are written. -/
structure Style where
  javaPackage : Text
  runtime : Text
  /-- Whether the annotation shows the checksum. -/
  showsChecksum : Bool
  fragments : Fragment → Template.Context → Except TemplateError Text

/-- A class being written. -/
structure Build where
  className : Text
  stage : Stage := .start
  writer : CodeWriter := {}
  /-- The values of the whole class. -/
  values : Bindings := []
  deriving DecidableEq, Repr

namespace Build

/-- Asks for a stage: what comes of it, and the class afterwards. -/
def ask (b : Build) (stage : Stage) : Except Failure Unit × Build :=
  match Stage.advance b.className b.stage stage with
  | .ok stage => (.ok (), { b with stage })
  | .error e => (.error (.stage e), b)

/-- Moves to a stage, where nobody looks at a class that failed. -/
def advance (b : Build) (stage : Stage) : Except Failure Build :=
  match b.ask stage with
  | (.ok (), b') => .ok b'
  | (.error e, _) => .error e

/-- Writes something. -/
def write (b : Build) (f : CodeWriter → CodeWriter) : Build := { b with writer := f b.writer }

/-- Gives the class a value. -/
def put (b : Build) (name value : Text) : Build := { b with values := b.values.put name value }

end Build

/-- A section as its fragment gives it. -/
def Style.fragment (style : Style) (f : Fragment) (context : Template.Context) :
    Except Failure Text :=
  match style.fragments f context with
  | .ok t => .ok t
  | .error e => .error (.template e)

/-- Writes a documentation comment. -/
def writeJavadoc (style : Style) (text : Text) (b : Build) : Except Failure Build := do
  let t ← style.fragment .javadoc [("lines", .list (javadocRows text))]
  pure (b.write (·.block t))

/-- The comment at the top of the file. -/
def writeHeader (style : Style) (b : Build) : Except Failure Build := do
  let t ← style.fragment .header []
  (b.write (·.block t)).advance .headerEmitted

/-- The package of the class. -/
def writePackage (style : Style) (b : Build) : Except Failure Build :=
  (b.write fun w => (w.row ("package " ++ style.javaPackage ++ ";")).row []).advance .packageEmitted

/-- The imports. -/
def writeImports (style : Style) (d : Definition) (b : Build) : Except Failure Build := do
  let t ← style.fragment .imports [("imports", .list (imports style.runtime d))]
  (b.write fun w => (w.block t).row []).advance .importsEmitted

/-- The comment of the class. -/
def writeClassComment (style : Style) (d : Definition) (b : Build) : Except Failure Build := do
  let b ← writeJavadoc style (classComment d) b
  b.advance .docEmitted

/-- The annotation of the class. -/
def writeMetadata (style : Style) (d : Definition) (checksum : Option Text) (b : Build) :
    Except Failure Build := do
  let t ← style.fragment .metadata []
  let items := metadataItems d (style.showsChecksum && checksum.isSome)
  let expanded := (Repetition.expand Repetition.defaultMarker t items ",").getD []
  (b.write (·.block expanded)).advance .metadataEmitted

/-- Opens the class. -/
def openBody (style : Style) (b : Build) : Except Failure Build := do
  let t ← style.fragment .fieldsHeader []
  let head :=
    "public class " ++ Placeholder.written "className" ++ " implements Message, Cloneable \x7b"
  (b.write fun w => ((w.openBlock head).row []).block t).advance .bodyOpen

/-- The values of a field. -/
def fieldValues (typeName : Text) (f : Declaration) : Bindings :=
  [("fieldType", typeName), ("fieldName", f.name), ("arraySize", Text.ofNat f.type.arity.size)]

/-- A declaration with its comment. -/
def writeDeclaration (style : Style) (fragment : Fragment) (b : Build) (f : Declaration) :
    Except Failure Build := do
  let b ← if f.comment.isEmpty then pure b else writeJavadoc style f.comment b
  let t ← style.fragment fragment []
  let values := b.values.extend (fieldValues f.type.name f)
  pure (b.write (·.block (Placeholder.substitute values t)))

/-- The name of an enumeration, by its place among them. -/
def enumName (index : Nat) : Text :=
  if index = 0 then "UnknownType" else "UnknownType" ++ Text.ofNat (index + 1)

/-- An enumeration and its place. -/
def writeEnum (style : Style) (b : Build) (enum : List Declaration × Nat) :
    Except Failure Build := do
  let head := "public enum " ++ enumName enum.2 ++ " \x7b"
  let b := b.write fun w => (w.row []).openBlock head
  let b ← enum.1.foldlM (writeDeclaration style .enumMember) b
  pure (b.write (·.closeBlock "\x7d"))

/-- The fragment that declares a field. -/
def fieldFragment (f : Declaration) : Fragment :=
  if f.type.arity.isArray then
    if 0 < f.type.arity.size then .fixedArrayField else .arrayField
  else if f.type.kind = .primitive then .primitiveField
  else .field

/-- The enumerations and the fields. -/
def writeFields (style : Style) (d : Definition) (b : Build) : Except Failure Build := do
  let b ← d.enums.zipIdx.foldlM (writeEnum style) b
  let b := if d.fields.isEmpty then b else b.write (·.row [])
  let b ← d.fields.foldlM (fun b f => writeDeclaration style (fieldFragment f) b f) b
  b.advance .fieldsEmitted

/-- The fragment of a field's accessor. -/
def accessorFragment (f : Declaration) : Fragment :=
  if f.type.arity.isArray && decide (0 < f.type.arity.size) then .fixedArrayAccessor else .accessor

/-- The type of an accessor's parameter; arrays are variadic. -/
def parameterType (f : Declaration) : Text :=
  if f.type.arity.isArray then f.type.name ++ "..." else f.type.name

/-- The values of a field's accessor. -/
def accessorValues (f : Declaration) : Bindings :=
  ("methodName", Naming.accessorName "with" f.name) :: fieldValues (parameterType f) f

/-- The accessor of a field. -/
def writeAccessor (style : Style) (b : Build) (f : Declaration) : Except Failure Build := do
  let t ← style.fragment (accessorFragment f) []
  let values := b.values.extend (accessorValues f)
  pure (b.write fun w => (w.row []).block (Placeholder.substitute values t))

/-- The accessors. -/
def writeAccessors (style : Style) (d : Definition) (b : Build) : Except Failure Build := do
  let b ← d.fields.foldlM (writeAccessor style) b
  b.advance .accessorsEmitted

/-- A method that names every field; a class without fields has none. -/
def writeIdentityMethod (style : Style) (items : List Text) (fragment : Fragment)
    (separator : Text) (b : Build) : Except Failure Build := do
  let t ← style.fragment fragment []
  match Repetition.expand Repetition.defaultMarker t items separator with
  | none => pure b
  | some body => pure (b.write fun w => (w.row []).block body)

/-- The methods that tell objects apart and show them. -/
def writeIdentityMethods (style : Style) (d : Definition) (b : Build) : Except Failure Build := do
  let b ← writeIdentityMethod style (d.fields.map hashExpression) .hashCode "," b
  let b ← writeIdentityMethod style (d.fields.map equalsExpression) .equals " &&" b
  let b ← writeIdentityMethod style (d.fields.map textExpression) .toText "," b
  b.advance .identityMethodsEmitted

/-- Closes the class. -/
def closeBody (b : Build) : Except Failure Build :=
  (b.write (·.closeBlock "\x7d")).advance .bodyClosed

/-- Writes all sections of a class, and gives the complete text. -/
def build (style : Style) (d : Definition) (checksum : Option Text) (b : Build) :
    Except Failure (Build × Text) := do
  let checksum := checksum.filter (!·.isEmpty)
  let b := b.put "msgName" d.name
  let b := match checksum with
    | some sum => b.put "md5sum" sum
    | none => b
  let b ← writeHeader style b
  let b ← writePackage style b
  let b ← writeImports style d b
  let b ← writeClassComment style d b
  let b ← writeMetadata style d checksum b
  let b ← openBody style (b.put "className" b.className)
  let b ← writeFields style d b
  let b ← writeAccessors style d b
  let b ← writeIdentityMethods style d b
  let b ← closeBody b
  let text := Placeholder.substitute b.values b.writer.text
  let b ← b.advance .globalSubstituted
  pure (b, text)

/-- The text of the class of a definition whose sizes keep to the limit on digits. -/
def render (style : Style) (d : Definition) (checksum : Option Text) : Except Failure Text :=
  (build style d checksum { className := Naming.className d.name }).map (·.2)

end RosBindings.JavaClass

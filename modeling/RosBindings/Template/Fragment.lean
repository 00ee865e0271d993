import RosBindings.Placeholder
import RosBindings.Repetition

/-!
# Fragments of a class

The sections of a generated class, each with the template it is written from unless
templates of the user's own are given.

* `Fragment.name` is the file name of a section's template, less its extension.
* `Fragment.rows` is the template that comes with the generator. Values of the whole
  class and of a field stand in it as placeholders.
-/

namespace RosBindings

/-- A section of a generated class. -/
inductive Fragment
  /-- The comment at the top of a file. -/
  | header
  /-- The import lines. -/
  | imports
  /-- A documentation comment. -/
  | javadoc
  /-- The annotation of the class. -/
  | metadata
  /-- What opens the body of the class. -/
  | fieldsHeader
  /-- A constant of an enumeration. -/
  | enumMember
  /-- A field that holds an object. -/
  | field
  /-- A field that holds a primitive. -/
  | primitiveField
  /-- A field that holds an array. -/
  | arrayField
  /-- A field that holds an array of fixed size. -/
  | fixedArrayField
  /-- An accessor. -/
  | accessor
  /-- An accessor that checks the size of an array. -/
  | fixedArrayAccessor
  /-- The hash method. -/
  | hashCode
  /-- The comparison method. -/
  | equals
  /-- The method that shows an object as text. -/
  | toText
  deriving DecidableEq, Repr

namespace Fragment

/-- All sections. -/
def all : List Fragment :=
  [.header, .imports, .javadoc, .metadata, .fieldsHeader, .enumMember,
   .field, .primitiveField, .arrayField, .fixedArrayField, .accessor,
   .fixedArrayAccessor, .hashCode, .equals, .toText]

/-- The name of a section's template. -/
def name : Fragment → Text
  | .header => "header"
  | .imports => "imports"
  | .javadoc => "javadoc"
  | .metadata => "class_message_metadata"
  | .fieldsHeader => "class_fields_header"
  | .enumMember => "enum_field"
  | .field => "class_field"
  | .primitiveField => "class_field_primitive"
  | .arrayField => "class_field_array"
  | .fixedArrayField => "class_field_fixed_size_array"
  | .accessor => "with_method"
  | .fixedArrayAccessor => "with_method_for_fixed_size_array"
  | .hashCode => "hash_code"
  | .equals => "equals"
  | .toText => "to_string"

/-- The place of a value. -/
def slot (key : Text) : Text := Placeholder.written key

/-- The rows of the template that comes with the generator. -/
def rows : Fragment → List Text
  | .header =>
    ["/*",
     " * Generated by msgmonster from the ROS message definition " ++ slot "msgName" ++ ".",
     " */"]
  | .imports =>
    ["\x7b% for path in imports %\x7d",
     "import \x7b\x7b path \x7d\x7d;",
     "\x7b% endfor %\x7d"]
  | .javadoc =>
    ["/**",
     "\x7b% for line in lines %\x7d",
     " *\x7b% if line %\x7d \x7b\x7b line \x7d\x7d\x7b% endif %\x7d",
     [],
     "\x7b% endfor %\x7d",
     " */"]
  | .metadata =>
    ["@MessageMetadata(",
     "        " ++ Repetition.defaultMarker ++ ")"]
  | .fieldsHeader =>
    ["static final String NAME = \"" ++ slot "msgName" ++ "\";",
     [],
     "private " ++ slot "className" ++ " copy() \x7b",
     "    try \x7b",
     "        return (" ++ slot "className" ++ ") super.clone();",
     "    \x7d catch (CloneNotSupportedException e) \x7b",
     "        throw new IllegalStateException(e);",
     "    \x7d",
     "\x7d"]
  | .enumMember =>
    [slot "fieldName" ++ ","]
  | .field =>
    ["public " ++ slot "fieldType" ++ " " ++ slot "fieldName" ++ " = new " ++ slot "fieldType"
       ++ "();"]
  | .primitiveField =>
    ["public " ++ slot "fieldType" ++ " " ++ slot "fieldName" ++ ";"]
  | .arrayField =>
    ["public " ++ slot "fieldType" ++ "[] " ++ slot "fieldName" ++ " = new " ++ slot "fieldType"
       ++ "[0];"]
  | .fixedArrayField =>
    ["public " ++ slot "fieldType" ++ "[] " ++ slot "fieldName" ++ " = new " ++ slot "fieldType"
       ++ "[" ++ slot "arraySize" ++ "];"]
  | .accessor =>
    ["public " ++ slot "className" ++ " " ++ slot "methodName"
       ++ "(" ++ slot "fieldType" ++ " " ++ slot "fieldName" ++ ") \x7b",
     "    var copy = copy();",
     "    copy." ++ slot "fieldName" ++ " = " ++ slot "fieldName" ++ ";",
     "    return copy;",
     "\x7d"]
  | .fixedArrayAccessor =>
    ["public " ++ slot "className" ++ " " ++ slot "methodName"
       ++ "(" ++ slot "fieldType" ++ " " ++ slot "fieldName" ++ ") \x7b",
     "    if (" ++ slot "fieldName" ++ ".length != " ++ slot "arraySize" ++ ")",
     "        throw new IllegalArgumentException(",
     "                \"" ++ slot "fieldName" ++ " expects \" + " ++ slot "arraySize"
       ++ " + \" elements, got \" + " ++ slot "fieldName" ++ ".length);",
     "    var copy = copy();",
     "    copy." ++ slot "fieldName" ++ " = " ++ slot "fieldName" ++ ";",
     "    return copy;",
     "\x7d"]
  | .hashCode =>
    ["@Override",
     "public int hashCode() \x7b",
     "    return Objects.hash(",
     "            " ++ Repetition.defaultMarker ++ ");",
     "\x7d"]
  | .equals =>
    ["@Override",
     "public boolean equals(Object obj) \x7b",
     "    if (obj instanceof " ++ slot "className" ++ " other)",
     "        return",
     "            " ++ Repetition.defaultMarker ++ ";",
     "    return false;",
     "\x7d"]
  | .toText =>
    ["@Override",
     "public String toString() \x7b",
     "    return XJson.asString(",
     "            " ++ Repetition.defaultMarker ++ ");",
     "\x7d"]

/-- The template that comes with the generator. -/
def source (f : Fragment) : Text := Text.unrows f.rows ++ ['\n']

/-- What the name of every template file ends in. -/
def extension : Text := ".j2"

end Fragment

end RosBindings

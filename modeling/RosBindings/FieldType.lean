import RosBindings.Naming
import RosBindings.Text.Numeral

/-!
# Field types

A type token of a definition names an element type and may mark it as an array. Its
Java counterpart is a primitive, a class of the message runtime, or the class
generated for another message.

* `[]` and every bound that starts with `<=` mark an array without a fixed size, and
  so does the size zero.
* A bound on the length of a string (`string<=10`) is dropped.
* The class of a message of the same package needs no import.
-/

namespace RosBindings

/-- How a type token is understood. -/
inductive TypeKind
  /-- A Java primitive. -/
  | primitive
  /-- A type every definition may use, with a class in the message runtime. -/
  | basic
  /-- A standard message named without its package. -/
  | standard
  /-- A message of another package. -/
  | foreign
  /-- A message of the same package, or an unknown word. -/
  | sibling
  deriving DecidableEq, Repr

/-- One value, or an array; the size zero stands for no fixed size. Sizes have at most
`Numeral.maxDigits` digits: longer ones are not read, and in a definition that is made by hand
they have no text. -/
inductive Arity
  | single
  | array (size : Nat)
  deriving DecidableEq, Repr

namespace Arity

/-- Whether this is an array. -/
def isArray : Arity → Bool
  | .single => false
  | .array _ => true

/-- The fixed size of an array, zero without one. -/
def size : Arity → Nat
  | .single => 0
  | .array n => n

end Arity

/-- The Java type of a field. For an array `name` is the type of the elements. -/
structure FieldType where
  kind : TypeKind
  name : Text
  importPath : Option Text
  arity : Arity
  deriving DecidableEq, Repr

/-- Why a type token is refused. -/
inductive TypeError
  /-- A bracket that is no array marker at the end. -/
  | malformedArray (token : Text)
  /-- A size that is not made of digits. -/
  | malformedSize (token : Text)
  /-- A size that is not read as a number. -/
  | size (error : NumeralError)
  deriving DecidableEq, Repr

/-- What is said about a refused type token. -/
def TypeError.message : TypeError → Text
  | .malformedArray token => "Malformed array type '" ++ token ++ "'"
  | .malformedSize token => "Malformed array size in type '" ++ token ++ "'"
  | .size error => error.message

namespace FieldType

/-- The Java primitive of a primitive type. -/
def primitives : List (Text × Text) :=
  [("bool", "boolean"), ("byte", "byte"), ("char", "byte"), ("int8", "byte"), ("uint8", "byte"),
   ("int16", "short"), ("uint16", "short"), ("int32", "int"), ("uint32", "int"),
   ("int64", "long"), ("uint64", "long"), ("float32", "float"), ("float64", "double")]

/-- The runtime package and class of a basic type. -/
def basics : List (Text × Text × Text) :=
  [("string", "std_msgs", "StringMessage"), ("wstring", "std_msgs", "StringMessage"),
   ("time", "primitives", "Time"), ("duration", "primitives", "Duration")]

/-- The runtime package and class of a standard message. -/
def standards : List (Text × Text × Text) :=
  [("Header", "std_msgs", "HeaderMessage")]

/-- Names from the outermost package inwards, as Java writes them. -/
def qualified (names : List Text) : Text := Text.join ['.'] names

/-- The element and the bound of a token that ends in an array marker. -/
def splitMarker? (token : Text) : Option (Text × Text) :=
  let isOpen := fun c => c == '[' || c == ']'
  let element := token.takeWhile (!isOpen ·)
  match element, token.dropWhile (!isOpen ·) with
  | _ :: _, '[' :: rest =>
    match rest.dropWhile (· ≠ ']') with
    | [_] => some (element, rest.takeWhile (· ≠ ']'))
    | _ => none
  | _, _ => none

/-- The arity a bound between brackets stands for. -/
def boundArity (token bound : Text) : Except TypeError Arity :=
  let bound := Text.trim bound
  if bound.isEmpty || ("<=" : Text).isPrefixOf bound then .ok (.array 0)
  else if !bound.all Text.isDigitLike then .error (.malformedSize token)
  else match Numeral.read bound with
    | .ok n => .ok (.array n)
    | .error e => .error (.size e)

/-- The element and the arity of a type token. -/
def splitArray (token : Text) : Except TypeError (Text × Arity) :=
  if !token.contains '[' then .ok (token, .single)
  else match splitMarker? token with
    | none => .error (.malformedArray token)
    | some (element, bound) => (boundArity token bound).map fun arity => (element, arity)

/-- The part of a text before a length bound it ends in. -/
def beforeBound? (t : Text) : Option Text :=
  let beforeDigits := Text.trimEndBy Text.isDecimal t
  if beforeDigits.length < t.length then
    Text.beforeSuffix? "<=" (Text.trimEndBy Text.isBlank beforeDigits)
  else none

/-- An element without its length bound. One line feed may stand behind the bound. -/
def dropLengthBound (element : Text) : Text :=
  match beforeBound? element with
  | some t => t
  | none =>
    match Text.beforeSuffix? ['\n'] element with
    | none => element
    | some t =>
      match beforeBound? t with
      | some u => u ++ ['\n']
      | none => element

/-- The type of an element, under the given runtime package. -/
def ofElement (runtime element : Text) (arity : Arity) : FieldType :=
  let element := dropLengthBound element
  match primitives.lookup element with
  | some name => ⟨.primitive, name, none, arity⟩
  | none =>
    match basics.lookup element with
    | some (package, name) => ⟨.basic, name, some (qualified [runtime, package, name]), arity⟩
    | none =>
      if element.contains '/' then
        let segments := Text.pieces (· == '/') element
        let name := Naming.className (segments.getLast?.getD [])
        ⟨.foreign, name, some (qualified [runtime, segments.head?.getD [], name]), arity⟩
      else
        match standards.lookup element with
        | some (package, name) =>
          ⟨.standard, name, some (qualified [runtime, package, name]), arity⟩
        | none => ⟨.sibling, Naming.className element, none, arity⟩

/-- The Java type of a type token, under the given runtime package. -/
def ofToken (runtime token : Text) : Except TypeError FieldType :=
  (splitArray (Text.trim token)).map fun (element, arity) => ofElement runtime element arity

end FieldType

/-- The package of the message runtime unless another one is asked for. -/
def defaultRuntime : Text := "id.jrosmessages"

end RosBindings

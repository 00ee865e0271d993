import RosBindings.Bindings

/-!
# Placeholders

A placeholder is a name between `$` + `{` and `}`; the name starts with a letter of
ASCII or an underscore and goes on with those and digits. Everything else is plain
text, a lone dollar sign included.

* `scan` takes a text apart into its placeholders and its other characters.
* `substitute` puts the bound values in their places. Values are not looked at again,
  and a placeholder without a value stays for a later pass.
-/

namespace RosBindings.Placeholder

/-- A placeholder, or one character that belongs to none. -/
inductive Part
  | char (c : Char)
  | key (name : Text)
  deriving DecidableEq, Repr

/-- What a name may start with. -/
def isKeyStart (c : Char) : Bool := c.isAlpha || c == '_'

/-- What a name may go on with. -/
def isKeyChar (c : Char) : Bool := c.isAlphanum || c == '_'

/-- A placeholder as it is written. -/
def written (name : Text) : Text := '$' :: '{' :: name ++ ['}']

/-- The name of the placeholder a text starts with. -/
def keyAt? : Text → Option Text
  | '$' :: '{' :: c :: cs =>
    match isKeyStart c, cs.dropWhile isKeyChar with
    | true, '}' :: _ => some (c :: cs.takeWhile isKeyChar)
    | _, _ => none
  | _ => none

/-- Takes a text apart after leaving out its first `skip` characters. -/
def scanFrom : Nat → Text → List Part
  | _, [] => []
  | skip + 1, _ :: cs => scanFrom skip cs
  | 0, c :: cs =>
    match keyAt? (c :: cs) with
    | some name => .key name :: scanFrom (name.length + 2) cs
    | none => .char c :: scanFrom 0 cs

/-- Takes a text apart. -/
def scan (t : Text) : List Part := scanFrom 0 t

/-- What a part becomes under the given bindings. -/
def fill (b : Bindings) : Part → Text
  | .char c => [c]
  | .key name => (b.lookup name).getD (written name)

/-- Puts the bound values in the places of their placeholders. -/
def substitute (b : Bindings) (t : Text) : Text := (scan t).flatMap (fill b)

end RosBindings.Placeholder

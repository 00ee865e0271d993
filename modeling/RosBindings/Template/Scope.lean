import RosBindings.Template.Meaning
import RosBindings.Text.Decomposition

/-!
# Scopes of a template

The whole template is a scope, and so is the body of each loop. A scope binds the names
of the template's own, then looks up every other name that it reads and that no scope
around it knows.

* A scope keeps a name in a cell, and names of one decomposition share a cell. So the
  name bound last decides for all of them.
* `freshNames` are the names that a scope looks up, in the order they are read in. The
  body of a loop inside is not read for them.
* `Scopes.read` is what a name means.
-/

namespace RosBindings.Template

mutual

/-- The names that a node reads in its own scope. -/
def readsOfNode : Node → List Text
  | .char _ => []
  | .value name => [name]
  | .each _ list _ => [list]
  | .when name body => name :: reads body

/-- The names that nodes read in their own scope. -/
def reads : List Node → List Text
  | [] => []
  | node :: nodes => readsOfNode node ++ reads nodes

end

mutual

/-- Whether a node reads a name, in whatever scope. -/
def nodeMentions (name : Text) : Node → Bool
  | .char _ => false
  | .value n => n == name
  | .each _ list body => list == name || mentions name body
  | .when n body => n == name || mentions name body

/-- Whether nodes read a name, in whatever scope. -/
def mentions (name : Text) : List Node → Bool
  | [] => false
  | node :: nodes => nodeMentions name node || mentions name nodes

end

/-- The names that a scope of the given nodes looks up, beside those that are known. -/
def freshNames (known : List Text) (nodes : List Node) : List Text :=
  ((reads nodes).filter fun name => !isLiteral name && !known.contains name).eraseDups

/-- The names that the body of a loop binds: that of the item, and that of the loop if the
body speaks of it. -/
def loopNames (item : Text) (body : List Node) : List Text :=
  item :: (if mentions loopName body then [loopName] else [])

/-- A name in a scope. -/
structure Binding where
  name : Text
  /-- The cell it is kept in. -/
  cell : Text
  /-- What it was bound to, unless there is nothing. -/
  meaning : Option Meaning
  /-- Whether it is a name of the template's own. -/
  isOwn : Bool
  deriving DecidableEq, Repr

namespace Binding

/-- Binds a name of the template's own. -/
def own (name : Text) (m : Meaning) : Binding := ⟨name, Text.decomposed name, some m, true⟩

/-- Looks up a name: in the context, then among the constants that are offered. -/
def lookedUp (context : Context) (name : Text) : Binding :=
  let m := match context.lookup name with
    | some v => some (.given v)
    | none => (offered.lookup name).map .atom
  ⟨name, Text.decomposed name, m, false⟩

end Binding

/-- The names of a scope, in the order they were bound in. -/
abbrev Scope := List Binding

/-- What a scope keeps in a cell. -/
def Scope.content (scope : Scope) (cell : Text) : Option Meaning :=
  (scope.reverse.find? fun b => b.cell == cell).bind Binding.meaning

/-- What a name means by a scope that knows it. -/
def Scope.read? (scope : Scope) (name : Text) : Option (Except Fault Meaning) :=
  match scope.find? fun b => b.name == name with
  | none => none
  | some b =>
    match scope.content b.cell with
    | some m => some (.ok m)
    | none => some (if b.isOwn then .ok .absent else .error (.unbound name))

/-- The scopes around a place, the innermost first. -/
abbrev Scopes := List Scope

namespace Scopes

/-- The names that the scopes know. -/
def known (scopes : Scopes) : List Text := scopes.flatMap fun scope => scope.map Binding.name

/-- What a name means. -/
def read (scopes : Scopes) (name : Text) : Except Fault Meaning :=
  match literals.lookup name with
  | some a => .ok (.atom a)
  | none => (scopes.findSome? fun scope => scope.read? name).getD (.error (.unbound name))

end Scopes

end RosBindings.Template

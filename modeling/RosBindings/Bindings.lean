import RosBindings.Text.Basic

/-!
# Bindings

Values under names, in the order in which the names were first bound. A name bound
again keeps its place and takes the new value. A caller may choose the names freely, save
for those that have a meaning of their own where the values go.
-/

namespace RosBindings

/-- Values under names. -/
abbrev Bindings := List (Text × Text)

namespace Bindings

/-- Binds a name to a value. -/
def put (name value : Text) : Bindings → Bindings
  | [] => [(name, value)]
  | (n, v) :: rest => if n = name then (n, value) :: rest else (n, v) :: put name value rest

/-- The bindings extended, and where names meet overridden, by local ones. -/
def extend (b locals : Bindings) : Bindings := locals.foldl (fun b (n, v) => put n v b) b

end Bindings

/-- A name that is bound although it has a meaning of its own. -/
structure NameClash where
  /-- Where the values go. -/
  place : Text
  name : Text
  deriving DecidableEq, Repr

namespace NameClash

/-- What is said about a clash. -/
def message (c : NameClash) : Text :=
  c.place ++ "() got multiple values for argument '" ++ c.name ++ "'"

/-- The first of the names that is taken. -/
def find? (place : Text) (taken names : List Text) : Option NameClash :=
  (names.find? taken.contains).map fun name => ⟨place, name⟩

end NameClash

/-- The bindings extended by local ones of a caller's choice. -/
def Bindings.extend? (b locals : Bindings) : Except NameClash Bindings :=
  match NameClash.find? "Substitutions.derive" ["self"] (locals.map (·.1)) with
  | some clash => .error clash
  | none => .ok (b.extend locals)

end RosBindings

import RosBindings.FileTree.Basic
import RosBindings.Text.Order

/-!
# Changes of a file tree

What differs between two states of the entries below a folder.
-/

namespace RosBindings.FileTree

/-- The entries below a folder, under their paths from there. -/
def below (tree : FileTree) (folder : Location) : List (Location × Entry) :=
  tree.entries.filterMap fun (location, entry) =>
    match folder.isPrefixOf? location with
    | some (name :: names) => some (name :: names, entry)
    | _ => none

/-- How a location below a folder is written; a folder ends in a slash. -/
def writtenBelow (location : Location) (entry : Entry) : Text :=
  Text.join ['/'] location ++ (if entry == .folder then ['/'] else [])

/-- The given entries in the order of their written paths. -/
def sortedByPath (entries : List (Location × Entry)) : List (Text × Entry) :=
  let written := entries.map fun (location, entry) => (writtenBelow location entry, entry)
  (Text.sortedSet (written.map (·.1))).filterMap fun path =>
    (written.lookup path).map fun entry => (path, entry)

/-- Entries below a folder that are new or different in `after`. -/
def changed (folder : Location) (before after : FileTree) : List (Text × Entry) :=
  let old := before.below folder
  sortedByPath <| (after.below folder).filter fun (location, entry) =>
    old.lookup location ≠ some entry

/-- Paths below a folder at which `after` has nothing any more. -/
def removed (folder : Location) (before after : FileTree) : List Text :=
  let new := after.below folder
  (sortedByPath <| (before.below folder).filter fun (location, _) =>
    (new.lookup location).isNone).map (·.1)

end RosBindings.FileTree

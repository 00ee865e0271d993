import RosBindings.FileTree.Basic
import RosBindings.Text.Order

/-!
# Access to a file tree

Questions about a file tree, and the ways to add to it. Nothing here changes an entry
that is there.

* `create` never touches an entry that is there, be it a link that leads nowhere.
* `ensureFolder` creates a folder with the folders above it. It tries the folder itself
  first and goes up only while the folder above is missing; what it has created stays
  when it fails further on.
-/

namespace RosBindings.FileTree

/-- Whether something is at a path, links followed. -/
def isPresent (tree : FileTree) (p : Path) : Except FileError Bool :=
  match tree.find .followed p with
  | .ok (.taken _ _) => .ok true
  | .ok (.free _) => .ok false
  | .error cause => if cause.meansAbsent then .ok false else .error ⟨cause, p.text⟩

/-- Whether a folder is at a path, links followed. -/
def isFolder (tree : FileTree) (p : Path) : Except FileError Bool :=
  match tree.find .followed p with
  | .ok (.taken _ entry) => .ok (entry == .folder)
  | .ok (.free _) => .ok false
  | .error cause => if cause.meansAbsent then .ok false else .error ⟨cause, p.text⟩

/-- The content of the file at a path. -/
def read (tree : FileTree) (p : Path) : Except FileError ByteArray :=
  match tree.find .followed p with
  | .ok (.taken _ (.file content)) => .ok content
  | .ok (.taken _ .folder) => .error ⟨.isFolder, p.text⟩
  | .ok (.taken _ (.link _)) => .error ⟨.tooManyLinks, p.text⟩
  | .ok (.free _) => .error ⟨.notFound, p.text⟩
  | .error cause => .error ⟨cause, p.text⟩

/-- The names in the folder at a location, in increasing order. -/
def namesAt (tree : FileTree) (folder : Location) : List Text :=
  Text.sortedSet <| tree.entries.filterMap fun (location, _) =>
    match location.getLast? with
    | some name => if location.dropLast = folder then some name else none
    | none => none

/-- The names in the folder at a path; none if there is no folder. -/
def names (tree : FileTree) (p : Path) : List Text :=
  match tree.find .followed p with
  | .ok (.taken location .folder) => tree.namesAt location
  | _ => []

/-- Adds an entry at a free location. -/
def add (tree : FileTree) (location : Location) (entry : Entry) : FileTree :=
  { tree with entries := tree.entries ++ [(location, entry)] }

/-- Adds an entry at a path where nothing is yet. -/
def addNew (tree : FileTree) (p : Path) (entry : Entry) : Except FileError FileTree :=
  match tree.find .kept p with
  | .ok (.taken _ _) => .error ⟨.alreadyExists, p.text⟩
  | .ok (.free location) => .ok (tree.add location entry)
  | .error cause => .error ⟨cause, p.text⟩

/-- Creates a file where nothing is yet. -/
def create (tree : FileTree) (p : Path) (content : ByteArray) : Except FileError FileTree :=
  tree.addNew p (.file content)

/-- Creates a folder where nothing is yet. -/
def makeFolder (tree : FileTree) (p : Path) : Except FileError FileTree := tree.addNew p .folder

/-- Creates a folder unless it is there. -/
def makeFolderUnlessThere (tree : FileTree) (p : Path) : Except FileError FileTree :=
  match tree.makeFolder p with
  | .ok tree' => .ok tree'
  | .error e =>
    if e.cause = .notFound then .error e
    else match tree.isFolder p with
      | .ok true => .ok tree
      | .ok false => .error e
      | .error e' => .error e'

/-- Creates the folder at the end of segments given from the last one back. -/
def ensureFolderBack (anchor : Anchor) (tree : FileTree) :
    List Text → Except FileError Unit × FileTree
  | [] =>
    match tree.makeFolderUnlessThere ⟨anchor, []⟩ with
    | .ok tree' => (.ok (), tree')
    | .error e => (.error e, tree)
  | segment :: above =>
    let p : Path := ⟨anchor, (segment :: above).reverse⟩
    match tree.makeFolderUnlessThere p with
    | .ok tree' => (.ok (), tree')
    | .error e =>
      if e.cause ≠ .notFound then (.error e, tree)
      else match ensureFolderBack anchor tree above with
        | (.error e', tree') => (.error e', tree')
        | (.ok (), tree') =>
          match tree'.makeFolderUnlessThere p with
          | .ok tree'' => (.ok (), tree'')
          | .error e' => (.error e', tree')

/-- Creates a folder and the folders above it, those that are there excepted. -/
def ensureFolder (tree : FileTree) (p : Path) : Except FileError Unit × FileTree :=
  ensureFolderBack p.anchor tree p.segments.reverse

end RosBindings.FileTree

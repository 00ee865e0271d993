import RosBindings.FileTree.Access

/-!
# Changes at written paths

The ways to change a file tree by hand. A path is taken as it is written, and an error
names it so.

* `makeFolders` creates a folder with the folders above it. It goes up while the folder
  above is missing and then creates from the outermost folder down.
* `writeFile` creates the folder that a file is in; `remove` takes away a file or a link,
  never a folder.
* Folders that were created stay when a later step fails.
-/

namespace RosBindings.FileTree

/-- Replaces the entry at a location. -/
def replace (tree : FileTree) (location : Location) (entry : Entry) : FileTree :=
  { tree with entries := tree.entries.map fun e => if e.1 = location then (location, entry) else e }

/-- Removes the entry at a location. -/
def erase (tree : FileTree) (location : Location) : FileTree :=
  { tree with entries := tree.entries.filter fun e => e.1 ≠ location }

/-- The outcome of a single change: a refused one leaves the tree as it was. -/
def settle (tree : FileTree) (t : Text) :
    Except FileCause FileTree → Except FileError Unit × FileTree
  | .ok tree' => (.ok (), tree')
  | .error cause => (.error ⟨cause, t⟩, tree)

/-- The folder that a written path names something in: all before the last slash, less
the slashes at its end unless there is nothing else. -/
def folderPart (t : Text) : Text :=
  let reversed := t.reverse.dropWhile (· ≠ '/')
  let bare := reversed.dropWhile (· = '/')
  (if bare.isEmpty then reversed else bare).reverse

/-- The folders above a written path, the nearest one first. `seen` is what stands before
the rest of the path. -/
def foldersAbove (seen : Text) : Text → List Text
  | [] => []
  | c :: rest =>
    let above := foldersAbove (seen ++ [c]) rest
    if c = '/' ∧ seen ≠ [] ∧ ¬ endsInSlash seen ∧ rest.any (· ≠ '/') then above ++ [seen]
    else above

/-- Whether something is at a written path; one that cannot be followed has nothing. -/
def hasWritten (tree : FileTree) (t : Text) : Bool :=
  match tree.findWritten .followed t with
  | .ok (.taken _ _) => true
  | _ => false

/-- Whether a folder is at a written path; one that cannot be followed has none. -/
def hasFolder (tree : FileTree) (t : Text) : Bool :=
  match tree.findWritten .followed t with
  | .ok (.taken _ .folder) => true
  | _ => false

/-- Creates one folder. With `mayExist` a folder that is there will do. -/
def makeOneFolder (mayExist : Bool) (tree : FileTree) (t : Text) :
    Except FileError Unit × FileTree :=
  let refuse (cause : FileCause) : Except FileCause FileTree :=
    if cause.isSystem && mayExist && tree.hasFolder t then .ok tree else .error cause
  tree.settle t <| match tree.findWritten .kept t with
    | .ok (.taken _ _) => refuse .alreadyExists
    | .ok (.free location) => .ok (tree.add location .folder)
    | .error cause => refuse cause

/-- Creates a folder, given the folders above it from the nearest one up. Where the one
above was missing, a single dot at the end has nothing left to create. -/
def makeFoldersUnder (mayExist : Bool) (tree : FileTree) (t : Text) :
    List Text → Except FileError Unit × FileTree
  | [] => tree.makeOneFolder mayExist t
  | above :: further =>
    if tree.hasWritten above then tree.makeOneFolder mayExist t
    else
      let onward (tree' : FileTree) : Except FileError Unit × FileTree :=
        if (Text.words (· == '/') t).getLast? = some selfName then (.ok (), tree')
        else tree'.makeOneFolder mayExist t
      match makeFoldersUnder mayExist tree above further with
      | (.ok (), tree') => onward tree'
      | (.error e, tree') =>
        if e.cause = .alreadyExists then onward tree' else (.error e, tree')

/-- Creates a folder and the folders above it that are missing. -/
def makeFolders (mayExist : Bool) (tree : FileTree) (t : Text) :
    Except FileError Unit × FileTree :=
  makeFoldersUnder mayExist tree t (foldersAbove [] t)

/-- Makes a change at a written path once the folder for it is there. -/
def inFolder (tree : FileTree) (t : Text) (change : FileTree → Except FileCause FileTree) :
    Except FileError Unit × FileTree :=
  let folder := folderPart t
  let made := if folder.isEmpty then (.ok (), tree) else tree.makeFolders true folder
  match made with
  | (.error e, tree') => (.error e, tree')
  | (.ok (), tree') => tree'.settle t (change tree')

/-- Writes a file, whether it is there or not, in a folder that is created if it is
missing. -/
def writeFile (tree : FileTree) (t : Text) (content : ByteArray) :
    Except FileError Unit × FileTree :=
  tree.inFolder t fun tree' =>
    match tree'.findWritten .written t with
    | .ok (.taken _ .folder) => .error .isFolder
    | .ok (.taken location _) => .ok (tree'.replace location (.file content))
    | .ok (.free location) => .ok (tree'.add location (.file content))
    | .error cause => .error cause

/-- Creates a symbolic link where nothing is yet, in a folder that is created if it is
missing. -/
def makeLink (tree : FileTree) (t target : Text) : Except FileError Unit × FileTree :=
  tree.inFolder t fun tree' =>
    match tree'.findWritten .kept t with
    | .ok (.taken _ _) => .error .alreadyExists
    | .ok (.free location) =>
      if endsInSlash t then .error .notFound else .ok (tree'.add location (.link target))
    | .error cause => .error cause

/-- Removes a file or a link. A slash at the end asks for a folder, which neither is. -/
def remove (tree : FileTree) (t : Text) : Except FileError Unit × FileTree :=
  tree.settle t <| match tree.findWritten .kept t with
    | .ok (.taken _ .folder) => .error .isFolder
    | .ok (.taken location _) =>
      if endsInSlash t then .error .notFolder else .ok (tree.erase location)
    | .ok (.free _) => .error .notFound
    | .error cause => .error cause

end RosBindings.FileTree

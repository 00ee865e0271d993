import RosBindings.Path
import RosBindings.Text.Encoding
import RosBindings.Text.Quoted

/-!
# File trees

Folders, files and symbolic links as a value. An entry is kept under its location, the
names from the root down; the root itself is always there and is a folder.

* `FileTree.lookup` is the entry at a location.
* `FileTree.find` follows a path. A link on the way is always followed; what becomes of
  a link at the end is up to the caller. The result is the entry found, or the free
  place where the last name would go.
* `FileTree.findWritten` follows a path as it is written, and so is the target of a link
  followed: behind a slash or a single dot at its end only a folder can stand.
-/

namespace RosBindings

/-- The names that lead from the root to an entry. -/
abbrev Location := List Text

/-- Contents are compared byte by byte. -/
instance contentDecidableEq : DecidableEq ByteArray := ByteArray.instDecidableEq

/-- What stands at a location. -/
inductive Entry
  | folder
  | file (content : ByteArray)
  | link (target : Text)
  deriving DecidableEq

/-- Why the file tree refuses something. -/
inductive FileCause
  | notFound
  | alreadyExists
  | notFolder
  | isFolder
  | nameTooLong
  | tooManyLinks
  /-- A file that is being written finds no room. -/
  | noSpace
  /-- A path with a NUL character in it, which never reaches the tree. -/
  | nulCharacter
  deriving DecidableEq, Repr

/-- A refusal, with the path it is about. -/
structure FileError where
  cause : FileCause
  path : Text
  deriving DecidableEq, Repr

namespace FileCause

/-- The number of an error of the system. -/
def number : FileCause → Nat
  | .notFound => 2
  | .alreadyExists => 17
  | .notFolder => 20
  | .isFolder => 21
  | .nameTooLong => 36
  | .tooManyLinks => 40
  | .noSpace => 28
  | .nulCharacter => 0

/-- The wording of an error of the system. -/
def wording : FileCause → Text
  | .notFound => "No such file or directory"
  | .alreadyExists => "File exists"
  | .notFolder => "Not a directory"
  | .isFolder => "Is a directory"
  | .nameTooLong => "File name too long"
  | .tooManyLinks => "Too many levels of symbolic links"
  | .noSpace => "No space left on device"
  | .nulCharacter => "embedded null byte"

/-- Whether the system itself gives this error. -/
def isSystem (c : FileCause) : Bool := c != .nulCharacter

/-- Whether the error is about a path; one that comes up while an open file is written is
not. -/
def namesPath (c : FileCause) : Bool := c != .noSpace

/-- Whether a question about existence takes this error for a plain no. -/
def meansAbsent : FileCause → Bool
  | .notFound | .notFolder | .tooManyLinks | .nulCharacter => true
  | .alreadyExists | .isFolder | .nameTooLong | .noSpace => false

end FileCause

/-- What is said about a refusal. -/
def FileError.message (e : FileError) : Text :=
  if e.cause.isSystem then
    "[Errno " ++ Text.ofNat e.cause.number ++ "] " ++ e.cause.wording
      ++ (if e.cause.namesPath then ": " ++ Text.quoted e.path else [])
  else e.cause.wording

/-- Folders, files and links, and the folder that relative paths start at. -/
structure FileTree where
  here : Location
  entries : List (Location × Entry)
  deriving DecidableEq

/-- What becomes of a link at the end of a path. -/
inductive LastLink
  /-- It is what the path leads to. -/
  | kept
  /-- The path goes on at its target. -/
  | followed
  /-- The path goes on at its target to write a file, which a slash at the end of the
  target does not allow. -/
  | written
  deriving DecidableEq, Repr

/-- Where a path leads: to an entry, or to a free place in a folder. -/
inductive Spot
  | taken (location : Location) (entry : Entry)
  | free (location : Location)
  deriving DecidableEq

namespace FileTree

/-- The greatest number of bytes in a name. -/
def maxName : Nat := 255

/-- The greatest number of bytes in a path. -/
def maxPath : Nat := 4095

/-- The greatest number of links followed on one way. -/
def maxLinks : Nat := 40

/-- The name of the folder above. -/
def parentName : Text := ['.', '.']

/-- The entry at a location. -/
def lookup (tree : FileTree) (location : Location) : Option Entry :=
  if location.isEmpty then some .folder else tree.entries.lookup location

/-- Where a path read in the given folder starts. -/
def start (anchor : Anchor) (folder : Location) : Location :=
  match anchor with
  | .here => folder
  | _ => []

/-- The name that a folder has for itself. -/
def selfName : Text := ['.']

/-- Whether a written path ends in a slash. -/
def endsInSlash (t : Text) : Bool := t.getLast? == some '/'

/-- The segments of a path as it is written. An empty one stands for a slash at the end. -/
def writtenSegments (t : Text) : List Text :=
  Text.words (· == '/') t ++ (if endsInSlash t then [[]] else [])

/-- Whether a segment stays in the folder it is read in. -/
def staysPut (segment : Text) : Bool := segment.isEmpty || segment == selfName

/-- Follows segments from a folder; `follow` goes on behind a link. -/
def walkWith (tree : FileTree) (last : LastLink)
    (follow : Location → List Text → Except FileCause Spot) :
    Location → List Text → Except FileCause Spot
  | folder, [] => .ok (.taken folder .folder)
  | folder, segment :: rest =>
    if staysPut segment then walkWith tree last follow folder rest
    else if segment = parentName then walkWith tree last follow folder.dropLast rest
    else if last = .written ∧ rest = [[]] then .error .isFolder
    else if maxName < Text.byteLength segment then .error .nameTooLong
    else
      let location := folder ++ [segment]
      match tree.lookup location with
      | none => if rest.isEmpty then .ok (.free location) else .error .notFound
      | some .folder => walkWith tree last follow location rest
      | some (.file content) =>
        if rest.isEmpty then .ok (.taken location (.file content)) else .error .notFolder
      | some (.link target) =>
        if rest.isEmpty && last == .kept then .ok (.taken location (.link target))
        else follow (start (Path.anchorOf target) folder) (writtenSegments target ++ rest)

/-- Follows segments from a folder, through at most `links` links. -/
def walk (tree : FileTree) (last : LastLink) :
    Nat → Location → List Text → Except FileCause Spot
  | 0 => walkWith tree last fun _ _ => .error .tooManyLinks
  | links + 1 => walkWith tree last (walk tree last links)

/-- Follows the segments of a path that is spelled `t`. -/
def findSpelled (tree : FileTree) (last : LastLink) (t : Text) (anchor : Anchor)
    (segments : List Text) : Except FileCause Spot :=
  if t.contains (Char.ofNat 0) then .error .nulCharacter
  else if t.isEmpty then .error .notFound
  else if maxPath < Text.byteLength t then .error .nameTooLong
  else walk tree last maxLinks (start anchor tree.here) segments

/-- Follows a path. -/
def find (tree : FileTree) (last : LastLink) (p : Path) : Except FileCause Spot :=
  tree.findSpelled last p.text p.anchor p.segments

/-- Follows a path as it is written. Where a link at the end is kept, a slash behind it
does not count. -/
def findWritten (tree : FileTree) (last : LastLink) (t : Text) : Except FileCause Spot :=
  tree.findSpelled last t (Path.anchorOf t)
    (if last = .kept then Text.words (· == '/') t else writtenSegments t)

end FileTree

end RosBindings

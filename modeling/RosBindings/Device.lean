import RosBindings.Failure
import RosBindings.FileTree.Written

/-!
# New files on a device

A new file is created empty and then written, and the device may break off on the way, with
part of the content in the file.

* `FileTree.openNew` creates the file, unless something is at its path, be it a link that leads
  nowhere; `FileTree.unlink` removes it.
* `Device.writeNew` creates a file and writes it. Where the write breaks off, what was written so
  far stays behind.
* `Device.writeWhole` removes what stays behind. It removes nothing if the failure is that
  something was at the path, since that is not its own.
-/

namespace RosBindings

namespace FileTree

/-- Creates an empty file where nothing is yet. From then on it is known by its location. -/
def openNew (tree : FileTree) (p : Path) : Except FileError (Location × FileTree) :=
  match tree.find .kept p with
  | .ok (.taken _ _) => .error ⟨.alreadyExists, p.text⟩
  | .ok (.free location) => .ok (location, tree.add location (.file .empty))
  | .error cause => .error ⟨cause, p.text⟩

/-- Removes the file or the link at a path, if there is one. -/
def unlink (tree : FileTree) (p : Path) : Except FileError FileTree :=
  match tree.find .kept p with
  | .ok (.taken _ .folder) => .error ⟨.isFolder, p.text⟩
  | .ok (.taken location _) => .ok (tree.erase location)
  | .ok (.free _) => .ok tree
  | .error cause => if cause = .notFound then .ok tree else .error ⟨cause, p.text⟩

end FileTree

/-- Whether a failure is that something is at a path already. -/
def Failure.saysExists : Failure → Bool
  | .file error => error.cause == .alreadyExists
  | _ => false

/-- A write that breaks off. -/
structure Breakdown where
  /-- How many bytes were written. -/
  written : Nat
  failure : Failure
  /-- The file is open by then, so that its path is not in question any more. -/
  isOpen : failure.saysExists = false

/-- What files are written to: which writes break off, by the files at the time, the path and
the content. -/
structure Device where
  breakdown? : FileTree → Path → ByteArray → Option Breakdown

namespace Device

/-- A device that no write breaks off on. -/
def sound : Device := ⟨fun _ _ _ => none⟩

/-- Creates a file and writes it. -/
def writeNew (device : Device) (files : FileTree) (p : Path) (content : ByteArray) :
    Except Failure Unit × FileTree :=
  match files.openNew p with
  | .error e => (.error (.file e), files)
  | .ok (location, opened) =>
    match device.breakdown? opened p content with
    | none => (.ok (), opened.replace location (.file content))
    | some broken =>
      (.error broken.failure,
        opened.replace location (.file (content.extract 0 broken.written)))

/-- Creates a file and writes it; a file that is not complete is removed. -/
def writeWhole (device : Device) (files : FileTree) (p : Path) (content : ByteArray) :
    Except Failure Unit × FileTree :=
  match device.writeNew files p content with
  | (.ok (), files') => (.ok (), files')
  | (.error e, files') =>
    if e.saysExists then (.error e, files')
    else match files'.unlink p with
      | .ok files'' => (.error e, files'')
      | .error e' => (.error (.file e'), files')

end Device

end RosBindings

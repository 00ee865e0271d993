import RosBindings.CommandLine.Run
import RosBindings.FileTree.Changes

/-!
# Entry point

The folders that the command line names are taken from disk into a file tree, the
program is called on it, and what it created goes back to disk. Links on disk are taken
for what they lead to, and the tools of ROS are not reached from here.
-/

namespace RosBindings.Disk

/-- How a location is written on disk. -/
def written (location : Location) : String := String.ofList ('/' :: Text.join ['/'] location)

/-- Whether a folder is on disk at a location. -/
def isFolder (location : Location) : IO Bool := do
  try (← IO.FS.realPath (written location)).isDir catch _ => pure false

/-- What is on disk at a location: nothing, a file, or a folder with all that is in it.
Only as many levels are looked at as the fuel allows. -/
def load : Nat → Location → IO (List (Location × Entry))
  | 0, _ => pure []
  | fuel + 1, location => do
    try
      let path ← IO.FS.realPath (written location)
      if ← path.isDir then
        let mut entries := [(location, Entry.folder)]
        for entry in ← path.readDir do
          entries := entries ++ (← load fuel (location ++ [entry.fileName.toList]))
        pure entries
      else if ← path.pathExists then
        pure [(location, .file (← IO.FS.readBinFile path))]
      else pure []
    catch _ => pure []

/-- The folders on disk on the way to a location. -/
def loadWay (location : Location) : IO (List (Location × Entry)) := do
  let mut entries := []
  for n in List.range location.length do
    let above := location.take n
    if ← isFolder above then
      entries := entries ++ [(above, Entry.folder)]
  pure entries

/-- The location that a written path has, seen from the working folder. -/
def locationOf (here : Location) (t : Text) : Location :=
  let p := Path.ofText t
  p.segments.foldl
    (fun location segment =>
      if segment = FileTree.parentName then location.dropLast else location ++ [segment])
    (FileTree.start p.anchor here)

/-- How deep folders are looked into. -/
def depth : Nat := 64

/-- The part of the disk that a command line speaks of. -/
def tree (here : Location) (options : CommandLine.Options) : IO FileTree := do
  let written := options.msgFolder.toList ++ options.outputFolder.word?.toList
  let places := written.map (locationOf here)
  let mut entries ← loadWay here
  for place in here :: places do
    entries := entries ++ (← loadWay place)
  for place in places do
    entries := entries ++ (← load depth place)
  pure ⟨here, (here, .folder) :: entries.filter (!·.1.isEmpty)⟩

/-- Puts new entries on disk. -/
def store (before after : FileTree) : IO Unit := do
  for (path, entry) in FileTree.changed [] before after do
    let path := String.ofList ('/' :: path)
    match entry with
    | .folder => IO.FS.createDirAll path
    | .file content => IO.FS.writeBinFile path content
    | .link _ => pure ()

/-- Prints what happened, in order. -/
def print (verbose : Bool) (events : List Event) : IO Unit := do
  for event in events do
    IO.print (String.ofList (Event.output [event]))
    IO.eprint (String.ofList (Event.errorOutput verbose [event]))

/-- The exit code of an ending; a failure that breaks the program off is printed. -/
def exitCode : CommandLine.Ending → IO UInt32
  | .exit code => pure (UInt32.ofNat code)
  | .brokenBy failure => do
    IO.eprintln (String.ofList failure.message)
    pure 1

end RosBindings.Disk

open RosBindings in
/-- Runs the program. -/
def main (args : List String) : IO UInt32 := do
  let args := args.map String.toList
  let folder ← IO.currentDir
  let here := Path.segmentsOf folder.toString.toList
  let before ← match CommandLine.parse args with
    | .ok options => Disk.tree here options
    | .error _ => pure ⟨here, []⟩
  let call := CommandLine.call before [] args
  Disk.print call.verbose call.events
  Disk.store before call.files
  Disk.exitCode call.ending

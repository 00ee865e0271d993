import RosBindings.Dialect
import RosBindings.Digest
import RosBindings.Tool

/-!
# Sources of definitions

Definitions come from a catalogue in memory, from a folder laid out like a workspace,
or from the tools of an installed ROS. Whatever the source, it tells packages from
messages, lists the messages of a package, and gives the lines and the checksum of a
message.

* In a folder a message lies at `package/Name.msg`, in the second dialect at
  `package/msg/Name.msg`; its checksum is the digest of the file.
* The tools of the second dialect show the definitions of nested types indented by a
  tab; those lines are left out.
-/

namespace RosBindings

/-- Where definitions come from. -/
inductive Source
  /-- Definitions and checksums in memory, by identifier. -/
  | catalogue (dialect : Dialect) (definitions checksums : List (Text × Text))
  /-- A folder of definition files. -/
  | folder (dialect : Dialect) (root : Path)
  /-- The tools of an installed ROS. -/
  | tools (dialect : Dialect)
  deriving DecidableEq, Repr

/-- What a source looks at: the files, and the answers of the tools. -/
structure World where
  files : FileTree
  tools : ToolTable := []

/-- The name of a message: its package and its last segment. An identifier of fewer
segments is its own name. -/
def messageName (identifier : Text) : Text :=
  match Text.pieces (· == '/') (Text.trimBy (· == '/') identifier) with
  | package :: segment :: rest =>
    package ++ ['/'] ++ ((segment :: rest).getLast?.getD [])
  | _ => identifier

namespace Source

/-- The source for a dialect: the folder if one is given, else the tools. -/
def choose (dialect : Dialect) (folder : Option Text) : Source :=
  match folder with
  | some (c :: cs) => .folder dialect (Path.ofText (c :: cs))
  | _ => .tools dialect

/-- The dialect of a source. -/
def dialect : Source → Dialect
  | .catalogue d _ _ => d
  | .folder d _ => d
  | .tools d => d

/-- The segments that lead from the root of a workspace to the messages of a package. -/
def packageSegments (d : Dialect) (package : Text) : List Text :=
  Path.segmentsOf (Text.trimBy (· == '/') package) ++
    match d with
    | .ros1 => []
    | .ros2 => ["msg"]

/-- The folder of a package's messages. -/
def packageFolder (d : Dialect) (root : Path) (package : Text) : Path :=
  { root with segments := root.segments ++ packageSegments d package }

/-- The file of a definition. -/
def definitionFile (root : Path) (identifier : Text) : Path :=
  root.join (identifier ++ Naming.extension)

/-- The name of a definition file without its extension; a file that is named by the
extension alone keeps it. -/
def stem (name : Text) : Text :=
  match Text.beforeSuffix? Naming.extension name with
  | some (c :: cs) => c :: cs
  | _ => name

/-- A failure to read the file of a definition. -/
def unreadable (file : Path) (error : FileError) : Failure :=
  if error.cause.isSystem then .source (.unreadable file error) else .file error

/-- The lines of a file. -/
def fileLines (files : FileTree) (file : Path) : Except Failure (List Text) :=
  match files.read file with
  | .error e => .error (unreadable file e)
  | .ok bytes =>
    match Text.decode? bytes with
    | none => .error (.notText file.text)
    | some t => .ok (Text.lines (Text.unifyBreaks t))

/-- The digest of a file. -/
def fileDigest (files : FileTree) (file : Path) : Except Failure Text :=
  match files.read file with
  | .error e => .error (unreadable file e)
  | .ok bytes => .ok (Digest.md5 bytes)

/-- Whether a value names a package rather than a message. -/
def isPackage (s : Source) (w : World) (value : Text) : Traced Bool :=
  match s with
  | .catalogue _ _ _ => pure (!value.contains '/')
  | .folder d root =>
    match w.files.isFolder (packageFolder d root value) with
    | .ok b => pure b
    | .error e => .fail (.file e)
  | .tools .ros1 => do
    let packages ← w.tools.call ["rospack", "list-names"]
    pure (packages.contains value)
  | .tools .ros2 => do
    let packages ← w.tools.call ["ros2", "interface", "packages"]
    pure (packages.contains value)

/-- The identifiers of the messages of a package. -/
def list (s : Source) (w : World) (package : Text) : Traced (List Text) :=
  match s with
  | .catalogue _ definitions _ =>
    pure ((definitions.map (·.1)).filter fun id => (package ++ ['/']).isPrefixOf id)
  | .folder d root => do
    let folder := packageFolder d root package
    if ← s.isPackage w package then
      let names := (w.files.names folder).filter fun name => Naming.extension.isSuffixOf name
      pure (names.map fun name => Text.join ['/'] (packageSegments d package ++ [stem name]))
    else .fail (.source (.noPackage folder))
  | .tools .ros1 => do
    let lines ← w.tools.call ["rosmsg", "package", package]
    pure ((lines.map Text.trim).filter (!·.isEmpty))
  | .tools .ros2 => do
    if ← s.isPackage w package then
      let lines ← w.tools.call ["ros2", "interface", "package", package]
      pure ((lines.map Text.trim).filter fun line => (package ++ "/msg").isPrefixOf line)
    else pure [package]

/-- The lines of a definition. -/
def readLines (s : Source) (w : World) (identifier : Text) : Traced (List Text) :=
  match s with
  | .catalogue _ definitions _ =>
    match definitions.lookup identifier with
    | some t => pure (Text.lines t)
    | none => .fail (.source (.unknown identifier))
  | .folder _ root => .ofExcept (fileLines w.files (definitionFile root identifier))
  | .tools .ros1 => w.tools.call ["rosmsg", "show", "--raw", identifier]
  | .tools .ros2 => do
    let lines ← w.tools.call ["ros2", "interface", "show", identifier]
    pure (lines.filter fun line => line.head? ≠ some '\t')

/-- The checksum of a definition, if it has one. -/
def checksum (s : Source) (w : World) (identifier : Text) : Traced (Option Text) :=
  match s with
  | .catalogue _ _ checksums => pure (checksums.lookup identifier)
  | .folder d root =>
    if d.hasChecksum then
      .ofExcept ((fileDigest w.files (definitionFile root identifier)).map some)
    else pure none
  | .tools .ros1 => do
    let lines ← w.tools.call ["rosmsg", "md5", identifier]
    pure ((lines.map Text.trim).find? (!·.isEmpty))
  | .tools .ros2 => pure none

end Source

end RosBindings

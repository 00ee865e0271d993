import RosBindings.Device
import RosBindings.JavaClass.Render
import RosBindings.Source

/-!
# Generation of classes

A generator takes messages from a source and writes one file per class into its output
folder.

* `draft` is the text of a message's class: what the source says about the message,
  read and written.
* `generate` creates the file of a class. A file that is there is never touched, and
  the message is skipped; a file that cannot be completed is removed again.
* `generateAll` does so for every message of a package, or for a single message; it
  stops at the first failure unless told to keep going.
* `run` does this in an output folder that it creates, and prints a summary.
-/

namespace RosBindings

/-- Settings of a run. -/
structure Config where
  javaPackage : Text
  outputFolder : Path
  dialect : Dialect := .ros1
  runtime : Setting := .word defaultRuntime
  keepGoing : Bool := false
  templates : TemplateStore := .packaged
  deriving DecidableEq, Repr

/-- What a run made of the messages it was asked for. -/
structure Report where
  /-- The files written. -/
  generated : List Path := []
  /-- The messages whose file was there. -/
  skipped : List Text := []
  /-- The messages that failed, with what is said about it. -/
  failed : List (Text × Text) := []
  deriving DecidableEq, Repr

/-- A result, or a failure, with the files afterwards and the events on the way. -/
structure Outcome (α : Type) where
  result : Except Failure α
  files : FileTree
  events : List Event

/-- An outcome with something that happened before. -/
def Outcome.after {α : Type} (o : Outcome α) (events : List Event) : Outcome α :=
  { o with events := events ++ o.events }

/-- Settings, a source of messages, and the tools the source may call. -/
structure Generator where
  config : Config
  source : Source
  tools : ToolTable := []

namespace Generator

/-- A remark of the generator. -/
def info (message : Text) : Event := .log .info .generator message

/-- The file of a message's class. -/
def outputPath (g : Generator) (identifier : Text) : Path :=
  g.config.outputFolder.join (Naming.className identifier ++ ".java")

/-- What the source looks at. -/
def world (g : Generator) (files : FileTree) : World := ⟨files, g.tools⟩

/-- How the classes are written. -/
def style (g : Generator) (files : FileTree) : JavaClass.Style where
  javaPackage := g.config.javaPackage
  runtime := g.config.runtime.shown
  showsChecksum := g.source.dialect.hasChecksum
  fragments := g.config.templates.fragments files

/-- Reads a definition where no runtime package is known: without fields it needs none,
and the first field fails for want of a type, unless it is at fault before. -/
def readUntyped (lines : List Text) (name : Text) : Except Failure Definition :=
  match (Line.normalize lines).find? Line.isField with
  | none => .ok { name }
  | some line =>
    match FieldLine.parse line with
    | .error e => .error (.line e)
    | .ok field =>
      match field.intValue with
      | .error e => .error (.line (.value e))
      | .ok _ => .error (.setting .runtime)

/-- Reads a definition under the runtime package that is set. -/
def readUnder (runtime : Setting) (lines : List Text) (name : Text) : Except Failure Definition :=
  match runtime with
  | .word package =>
    match Definition.parse lines name package with
    | .error e => .error (.line e)
    | .ok d => .ok d
  | .empty => readUntyped lines name

/-- Reads a definition. -/
def readDefinition (runtime : Setting) (lines : List Text) (name : Text) : Traced Definition :=
  match readUnder runtime lines name with
  | .error e => .fail e
  | .ok d =>
    { outcome := .ok d
      events := (Definition.notes lines d).map (.log .debug .reader) }

/-- Writes a class. Its imports are looked at once the header is written. -/
def writeClass (style : JavaClass.Style) (className : Text) (d : Definition)
    (checksum : Option Text) : Traced (JavaClass.Build × Text) where
  outcome := JavaClass.build style d checksum { className }
  events :=
    match style.fragment .header [] with
    | .ok _ => (JavaClass.importNotes d).map (.log .debug .generator)
    | .error _ => []

/-- The class of a message, from what its source says about it. -/
def draft (g : Generator) (files : FileTree) (identifier : Text) :
    Traced (JavaClass.Build × Text) := do
  let lines ← g.source.readLines (g.world files) identifier
  let d ← readDefinition g.config.runtime lines (messageName identifier)
  let checksum ← g.source.checksum (g.world files) identifier
  writeClass (g.style files) (Naming.className identifier) d checksum

/-- Generates the class of a message; there is no path when its file was there. -/
@[irreducible] def generate (g : Generator) (files : FileTree) (identifier : Text)
    (device : Device := .sound) : Outcome (Option Path) :=
  let path := g.outputPath identifier
  let started := [info ("Processing " ++ identifier)]
  match files.isPresent path with
  | .error e => ⟨.error (.file e), files, started⟩
  | .ok true => ⟨.ok none, files, started ++ [info (path.text ++ " already exists, skipping")]⟩
  | .ok false =>
    let drafted := g.draft files identifier
    let events := started ++ drafted.events
    match drafted.outcome with
    | .error e => ⟨.error e, files, events⟩
    | .ok (build, text) =>
      match device.writeWhole files path (Text.encode text) with
      | (.error e, files') => ⟨.error e, files', events⟩
      | (.ok (), files') =>
        match build.advance .written with
        | .error e => ⟨.error e, files', events⟩
        | .ok _ => ⟨.ok (some path), files', events ++ [info ("Generated " ++ path.text)]⟩

/-- Generates the classes of messages one after the other, on top of a report. -/
def generateEach (g : Generator) (identifiers : List Text) (files : FileTree) (report : Report)
    (device : Device := .sound) : Outcome Report :=
  match identifiers with
  | [] => ⟨.ok report, files, []⟩
  | identifier :: rest =>
    let o := g.generate files identifier device
    match o.result with
    | .ok (some path) =>
      let generated := report.generated ++ [path]
      (g.generateEach rest o.files { report with generated } device).after o.events
    | .ok none =>
      let skipped := report.skipped ++ [identifier]
      (g.generateEach rest o.files { report with skipped } device).after o.events
    | .error e =>
      if g.config.keepGoing && e.isRecoverable then
        let failed := report.failed ++ [(identifier, e.message)]
        (g.generateEach rest o.files { report with failed } device).after
          (o.events ++ [.log .error .generator
            ("Failed to generate " ++ identifier ++ ": " ++ e.message)])
      else ⟨.error e, o.files, o.events⟩

/-- The messages a value stands for: those of the package, or the one message. -/
def listing (g : Generator) (files : FileTree) (value : Text) : Traced (List Text) := do
  if ← g.source.isPackage (g.world files) value then g.source.list (g.world files) value
  else pure [value]

/-- Generates the classes of a package, or of a single message. -/
def generateAll (g : Generator) (files : FileTree) (value : Text)
    (device : Device := .sound) : Outcome Report :=
  let listed := g.listing files value
  match listed.outcome with
  | .error e => ⟨.error e, files, listed.events⟩
  | .ok identifiers => (g.generateEach identifiers files {} device).after listed.events

/-- The summary of a run. -/
def summary (report : Report) : List Event :=
  report.generated.map (fun path => .print ("  Generated: " ++ path.text))
    ++ report.skipped.map (fun id => .print ("  Skipped (already exists): " ++ id))
    ++ report.failed.map (fun (id, error) => .complain ("  FAILED: " ++ id ++ ": " ++ error))
    ++ [.print ("Done! " ++ Text.ofNat report.generated.length ++ " generated, "
        ++ Text.ofNat report.skipped.length ++ " skipped, "
        ++ Text.ofNat report.failed.length ++ " failed")]

/-- Works in the output folder, which is created and announced first; a summary follows
when the work has come to its end. -/
def inOutputFolder (g : Generator) (files : FileTree) (work : FileTree → Outcome Report) :
    Outcome Report :=
  match files.ensureFolder g.config.outputFolder with
  | (.error e, files) => ⟨.error (.file e), files, []⟩
  | (.ok (), files) =>
    let o := work files
    let ending := match o.result with
      | .ok report => summary report
      | .error _ => []
    { o with
      events := .print ("Output folder " ++ g.config.outputFolder.text) :: o.events ++ ending }

/-- A whole run. -/
def run (g : Generator) (files : FileTree) (value : Text) : Outcome Report :=
  g.inOutputFolder files fun files => g.generateAll files value

/-- The generation of what an empty setting stands for. The tools, asked for their
packages, know none of that kind, and so it is taken for a message. -/
def generateEmpty (g : Generator) (files : FileTree) : Outcome Report :=
  match g.source with
  | .tools _ =>
    let asked := g.source.isPackage (g.world files) []
    match asked.outcome with
    | .error e => ⟨.error e, files, asked.events⟩
    | .ok _ =>
      ⟨.error (.setting .identifier), files,
        asked.events ++ [info ("Processing " ++ Setting.empty.shown)]⟩
  | _ => ⟨.error (.setting .package), files, []⟩

/-- A whole run on what the command line gives to work on. -/
def runOn (g : Generator) (files : FileTree) : Setting → Outcome Report
  | .word value => g.run files value
  | .empty => g.inOutputFolder files g.generateEmpty

end Generator

end RosBindings

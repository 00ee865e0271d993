import RosBindings.CommandLine.Arguments
import RosBindings.CommandLine.Usage
import RosBindings.Generation

/-!
# The program

One call of the program on a command line: its exit code, what it prints, and the
files afterwards. A failure that concerns a definition or the files ends the program
with a message and the exit code 1; any other failure breaks it off.
-/

namespace RosBindings.CommandLine

/-- How a call of the program ends. -/
inductive Ending
  | exit (code : Nat)
  /-- Broken off by a failure that is not dealt with. -/
  | brokenBy (failure : Failure)
  deriving DecidableEq, Repr

/-- A call of the program. -/
structure Call where
  ending : Ending
  files : FileTree
  events : List Event
  verbose : Bool := false

/-- The generator that the options ask for, with the given output folder. -/
def Options.generator (o : Options) (outputFolder : Text) (tools : ToolTable) : Generator where
  config :=
    { javaPackage := o.javaPackage.shown
      outputFolder := Path.ofText outputFolder
      dialect := o.dialect
      runtime := o.runtime
      keepGoing := o.keepGoing }
  source := Source.choose o.dialect o.msgFolder
  tools := tools

/-- How a run ends the program. -/
def endingOf : Except Failure Report → Ending
  | .ok report => .exit (if report.failed.isEmpty then 0 else 1)
  | .error e => if e.isRecoverable then .exit 1 else .brokenBy e

/-- What is said when a run fails. -/
def lastWords : Except Failure Report → List Event
  | .ok _ => []
  | .error e => if e.isRecoverable then [.complain ("FATAL: " ++ e.message)] else []

/-- Carries out what the options ask for. -/
def Options.run (o : Options) (files : FileTree) (tools : ToolTable) : Outcome Report :=
  match o.outputFolder with
  | .word folder => (o.generator folder tools).runOn files o.input
  | .empty => ⟨.error (.setting .outputFolder), files, []⟩

/-- Calls the program. -/
def call (files : FileTree) (tools : ToolTable) (args : List Text) : Call :=
  match parse args with
  | .error .help => { ending := .exit 0, files, events := [.print help] }
  | .error refusal =>
    { ending := .exit 2
      files
      events := [.complain usage, .complain (program ++ ": error: " ++ refusal.message)] }
  | .ok options =>
    let o := options.run files tools
    { ending := endingOf o.result
      files := o.files
      events := o.events ++ lastWords o.result
      verbose := options.verbose }

end RosBindings.CommandLine

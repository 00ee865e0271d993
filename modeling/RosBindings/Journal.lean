import RosBindings.Failure

/-!
# Journal

What a run does besides its result, in order: tools called, lines printed, remarks
logged. `Traced` is a result together with the events on the way to it; after a
failure nothing more happens.
-/

namespace RosBindings

/-- How much a remark matters. -/
inductive Severity
  | debug
  | info
  | error
  deriving DecidableEq, Repr

/-- Which part of the generator makes a remark. -/
inductive Speaker
  | generator
  | reader
  | sources
  deriving DecidableEq, Repr

/-- Something that happens during a run. -/
inductive Event
  /-- A tool is called. -/
  | call (command : List Text)
  /-- A remark is logged. -/
  | log (severity : Severity) (speaker : Speaker) (message : Text)
  /-- A line is printed. -/
  | print (line : Text)
  /-- A line is printed among the errors. -/
  | complain (line : Text)
  deriving DecidableEq, Repr

/-- How the log calls a severity. -/
def Severity.label : Severity → Text
  | .debug => "DEBUG"
  | .info => "INFO"
  | .error => "ERROR"

/-- How the log calls a part of the generator. -/
def Speaker.label : Speaker → Text
  | .generator => "msgmonster.generator.java_class_generator"
  | .reader => "msgmonster.parser.definition_parser"
  | .sources => "msgmonster.sources.base"

namespace Event

/-- The commands called. -/
def commands (events : List Event) : List (List Text) :=
  events.filterMap fun
    | .call command => some command
    | _ => none

/-- The text printed. -/
def output (events : List Event) : Text :=
  events.flatMap fun
    | .print line => line ++ ['\n']
    | _ => []

/-- The text printed among the errors, with the log in its place; remarks for debugging
appear only when asked for. -/
def errorOutput (verbose : Bool) (events : List Event) : Text :=
  events.flatMap fun
    | .log severity speaker message =>
      if severity == .debug && !verbose then []
      else severity.label ++ " " ++ speaker.label ++ ": " ++ message ++ ['\n']
    | .complain line => line ++ ['\n']
    | _ => []

end Event

/-- A result, or a failure, with the events on the way to it. -/
structure Traced (α : Type) where
  outcome : Except Failure α
  events : List Event := []

namespace Traced

/-- A result that nothing was done for. -/
def ofExcept {α : Type} (outcome : Except Failure α) : Traced α := { outcome }

/-- A failure. -/
def fail {α : Type} (f : Failure) : Traced α := { outcome := .error f }

instance instMonad : Monad Traced where
  pure a := { outcome := .ok a }
  bind x f :=
    match x.outcome with
    | .error e => { outcome := .error e, events := x.events }
    | .ok a =>
      let y := f a
      { outcome := y.outcome, events := x.events ++ y.events }

end Traced

end RosBindings

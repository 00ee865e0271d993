import RosBindings.Journal
import RosBindings.Text.Blank
import RosBindings.Text.Lines

/-!
# Tools

The command line tools of an installed ROS, as a table of what each command answers. A
command that is not in the table is not installed. What a tool prints are bytes, like the
content of a file, and need not be text.
-/

namespace RosBindings

/-- What a tool answers. -/
inductive Reply
  /-- Success, with what it printed. -/
  | output (content : ByteArray)
  /-- Failure, with what it said about it, if anything. -/
  | failure (report : Option ByteArray)
  deriving DecidableEq

namespace Reply

/-- The answer of a tool that prints a text. -/
def printed (t : Text) : Reply := .output (Text.encode t)

/-- What was printed, be it about a success or a failure. -/
def content : Reply → ByteArray
  | .output content => content
  | .failure report => report.getD .empty

end Reply

/-- The answers of the tools, by command. -/
abbrev ToolTable := List (List Text × Reply)

/-- Calls a tool and takes the lines it prints. What it prints is read before it is asked
whether it succeeded. -/
def ToolTable.call (tools : ToolTable) (command : List Text) : Traced (List Text) :=
  let written := Text.join [' '] command
  { events := [.log .debug .sources ("Running " ++ written), .call command]
    outcome :=
      match tools.lookup command with
      | none => .error (.source (.toolMissing (command.headD [])))
      | some reply =>
        match Text.decode? reply.content with
        | none => .error (.notText written)
        | some t =>
          match reply with
          | .output _ => .ok (Text.lines t)
          | .failure _ => .error (.source (.toolFailed written (Text.trim t))) }

end RosBindings

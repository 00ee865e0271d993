import RosBindings.Line
import RosBindings.Setting
import RosBindings.Stage
import RosBindings.Template.Store

/-!
# Failures

Everything that can keep a class from being generated, by cause. Some failures concern
the definition at hand only, and a run that is told to keep going passes over them;
others stop every run.
-/

namespace RosBindings

/-- Why a source has no answer. -/
inductive SourceError
  /-- There is no definition of this identifier. -/
  | unknown (identifier : Text)
  /-- There is no folder for the package. -/
  | noPackage (folder : Path)
  /-- The file of the definition cannot be read. -/
  | unreadable (file : Path) (error : FileError)
  /-- The tool is not installed. -/
  | toolMissing (tool : Text)
  /-- The tool reported a failure. -/
  | toolFailed (command report : Text)
  deriving DecidableEq, Repr

/-- What is said about a source without an answer. -/
def SourceError.message : SourceError → Text
  | .unknown identifier => "No definition " ++ identifier
  | .noPackage folder => "Package folder " ++ folder.text ++ " does not exist"
  | .unreadable file error => "Cannot read " ++ file.text ++ ": " ++ error.message
  | .toolMissing tool =>
    "'" ++ tool ++ "' not found. Make sure the ROS environment is sourced."
  | .toolFailed command report => "'" ++ command ++ "' failed: " ++ report

/-- Why a class is not generated. -/
inductive Failure
  | line (error : LineError)
  | template (error : TemplateError)
  | source (error : SourceError)
  | stage (error : StageError)
  | file (error : FileError)
  /-- Bytes that are no text, by the path of their file or the command that printed them. -/
  | notText (origin : Text)
  /-- A setting is empty where a word is needed. -/
  | setting (error : EmptySetting)
  deriving DecidableEq, Repr

/-- Whether a refused line is passed over: a number that cannot be read never is. -/
def LineError.isRecoverable : LineError → Bool
  | .incomplete _ => true
  | .value _ => false
  | .type (.size _) => false
  | .type _ => true

/-- Whether a template that is not written is passed over. -/
def TemplateError.isRecoverable : TemplateError → Bool
  | .notText _ | .clash _ => false
  | .notFound _ _ => true
  | .faulty _ fault => fault.isOfTemplate

namespace Failure

/-- What is said about a failure. -/
def message : Failure → Text
  | .line error => error.message
  | .template error => error.message
  | .source error => error.message
  | .stage error => error.message
  | .file error => error.message
  | .notText origin => origin ++ " is not UTF-8"
  | .setting error => error.message

/-- Whether a run that keeps going passes over the failure. -/
def isRecoverable : Failure → Bool
  | .line error => error.isRecoverable
  | .template error => error.isRecoverable
  | .source _ => true
  | .stage _ => true
  | .file error => error.cause.isSystem
  | .notText _ => false
  | .setting _ => false

end Failure

end RosBindings

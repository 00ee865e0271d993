import RosBindings.Text.Basic

/-!
# Stages of a class

A class moves through its stages in one direction only. Two of them are final: it was
written, or it was skipped because its file is there; skipping is possible from every
stage before those.
-/

namespace RosBindings

/-- How far a class has come. -/
inductive Stage
  | start
  | headerEmitted
  | packageEmitted
  | importsEmitted
  | docEmitted
  | metadataEmitted
  | bodyOpen
  | fieldsEmitted
  | accessorsEmitted
  | identityMethodsEmitted
  | bodyClosed
  | globalSubstituted
  | written
  | skipped
  deriving DecidableEq, Repr

/-- Why a class cannot go to a stage. -/
inductive StageError
  /-- The class has reached a final stage. -/
  | finished (className : Text) (stage : Stage)
  /-- The stage is not later than the present one. -/
  | backwards (className : Text) (source target : Stage)
  deriving DecidableEq, Repr

namespace Stage

/-- All stages in their order. -/
def all : List Stage :=
  [.start, .headerEmitted, .packageEmitted, .importsEmitted, .docEmitted, .metadataEmitted,
   .bodyOpen, .fieldsEmitted, .accessorsEmitted, .identityMethodsEmitted, .bodyClosed,
   .globalSubstituted, .written, .skipped]

/-- The place of a stage in their order. -/
def rank : Stage → Nat
  | .start => 0
  | .headerEmitted => 1
  | .packageEmitted => 2
  | .importsEmitted => 3
  | .docEmitted => 4
  | .metadataEmitted => 5
  | .bodyOpen => 6
  | .fieldsEmitted => 7
  | .accessorsEmitted => 8
  | .identityMethodsEmitted => 9
  | .bodyClosed => 10
  | .globalSubstituted => 11
  | .written => 12
  | .skipped => 13

/-- How messages call a stage. -/
def label : Stage → Text
  | .start => "START"
  | .headerEmitted => "HEADER_EMITTED"
  | .packageEmitted => "PACKAGE_EMITTED"
  | .importsEmitted => "IMPORTS_EMITTED"
  | .docEmitted => "DOC_EMITTED"
  | .metadataEmitted => "METADATA_EMITTED"
  | .bodyOpen => "BODY_OPEN"
  | .fieldsEmitted => "FIELDS_EMITTED"
  | .accessorsEmitted => "ACCESSORS_EMITTED"
  | .identityMethodsEmitted => "IDENTITY_METHODS_EMITTED"
  | .bodyClosed => "BODY_CLOSED"
  | .globalSubstituted => "GLOBAL_SUBSTITUTED"
  | .written => "WRITTEN"
  | .skipped => "SKIPPED"

/-- The stage of a label. -/
def ofLabel? (t : Text) : Option Stage := all.find? fun s => s.label = t

/-- Whether nothing comes after a stage. -/
def isFinal (s : Stage) : Bool := s == .written || s == .skipped

/-- Moves a class from one stage to another. -/
def advance (className : Text) (source target : Stage) : Except StageError Stage :=
  if source.isFinal then .error (.finished className source)
  else if target ≠ .skipped ∧ target.rank ≤ source.rank then
    .error (.backwards className source target)
  else .ok target

end Stage

/-- What is said about a class that cannot go to a stage. -/
def StageError.message : StageError → Text
  | .finished className stage => className ++ " is already " ++ stage.label
  | .backwards className source target =>
    "Cannot move " ++ className ++ " from " ++ source.label ++ " to " ++ target.label

end RosBindings

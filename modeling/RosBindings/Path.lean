import RosBindings.Text.Basic

/-!
# Paths

A path is where it starts and the segments it goes through. Empty segments and single
dots are dropped when a path is read; double dots stay, since they mean what the
folders on disk make of them. Exactly two slashes at the start are a starting point of
their own.
-/

namespace RosBindings

/-- Where a path starts. -/
inductive Anchor
  /-- At the working folder. -/
  | here
  /-- At the root. -/
  | root
  /-- At the root, spelled with two slashes. -/
  | doubleRoot
  deriving DecidableEq, Repr

/-- A path in normal form. -/
structure Path where
  anchor : Anchor
  segments : List Text
  deriving DecidableEq, Repr

namespace Path

/-- Where a written path starts. -/
def anchorOf : Text → Anchor
  | '/' :: '/' :: '/' :: _ => .root
  | '/' :: '/' :: _ => .doubleRoot
  | '/' :: _ => .root
  | _ => .here

/-- The segments of a written path. -/
def segmentsOf (t : Text) : List Text :=
  (Text.words (· == '/') t).filter (· ≠ ['.'])

/-- Reads a path. -/
def ofText (t : Text) : Path := ⟨anchorOf t, segmentsOf t⟩

/-- How the starting point is written. -/
def anchorText : Anchor → Text
  | .here => []
  | .root => ['/']
  | .doubleRoot => ['/', '/']

/-- Writes a path; the path without segments is written as a dot. -/
def text (p : Path) : Text :=
  match p.anchor, p.segments with
  | .here, [] => ['.']
  | anchor, segments => anchorText anchor ++ Text.join ['/'] segments

/-- A path read from another one; an absolute path forgets where it was read from. -/
def join (p : Path) (t : Text) : Path :=
  match anchorOf t with
  | .here => { p with segments := p.segments ++ segmentsOf t }
  | _ => ofText t

/-- The last segment, empty when there is none. -/
def name (p : Path) : Text := p.segments.getLast?.getD []

end Path

end RosBindings

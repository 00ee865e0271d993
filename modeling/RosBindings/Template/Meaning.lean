import RosBindings.Template.Basic

/-!
# What names mean in a template

A name means a value of the caller's, a constant, the template itself, or the loop around
it. Loops are live: a loop may run over the steps that a loop around it has still to
make, and then makes them.

* `Loops` are the loops that run, the innermost first. The depth of a loop is the number
  of loops around it, and stands for it as long as it runs.
* `Loops.advance` makes the next step of a loop, and of every loop it runs over.
-/

namespace RosBindings.Template

/-- The constants that a template may use unless the caller gives their names another
meaning. -/
def offered : List (Text × Atom) :=
  [("range", ⟨"<class 'range'>", "type", true⟩),
   ("dict", ⟨"<class 'dict'>", "type", true⟩),
   ("lipsum", ⟨"<function generate_lorem_ipsum>", "function", true⟩),
   ("cycler", ⟨"<class 'jinja2.utils.Cycler'>", "type", true⟩),
   ("joiner", ⟨"<class 'jinja2.utils.Joiner'>", "type", true⟩),
   ("namespace", ⟨"<class 'jinja2.utils.Namespace'>", "type", true⟩)]

/-- What a name means. -/
inductive Meaning
  /-- A value of the caller's, or a part of it. -/
  | given (value : Value)
  | atom (atom : Atom)
  /-- The template itself, by its file. -/
  | itself (file : Text)
  /-- The loop of this depth. -/
  | loop (depth : Nat)
  /-- A step of the loop of this depth, and what it gave. -/
  | step (gave : Meaning) (depth : Nat)
  /-- Nothing at all, where a name of the template's own has lost its cell. -/
  | absent
  deriving DecidableEq, Repr

/-- What a loop runs through. -/
inductive Supply
  | items (items : List Meaning)
  /-- The steps of the loop of this depth. -/
  | steps (depth : Nat)
  deriving DecidableEq, Repr

/-- A loop that runs: what is left, how many steps it has made, and how many it is taken
to make in all. -/
structure Running where
  left : Supply
  made : Nat
  total : Nat
  deriving DecidableEq, Repr

/-- The loops that run, the innermost first. -/
abbrev Loops := List Running

namespace Loops

/-- The loop of a depth. -/
def atDepth? (loops : Loops) (depth : Nat) : Option Running := loops.reverse[depth]?

/-- How a loop is written: by its step. -/
def shown (loops : Loops) (depth : Nat) : Text :=
  match atDepth? loops depth with
  | some r => "<LoopContext " ++ Text.ofNat r.made ++ "/" ++ Text.ofNat r.total ++ ">"
  | none => []

/-- The number of steps that a loop has still to make. -/
def remaining : Loops → Nat → Nat
  | [], _ => 0
  | r :: outer, depth =>
    if depth < outer.length then remaining outer depth
    else match r.left with
      | .items items => items.length
      | .steps depth' => remaining outer depth'

/-- Makes the next step of a loop, unless it is over: what the step gives, and the loops
after it. -/
def advance : Loops → Nat → Option (Meaning × Loops)
  | [], _ => none
  | r :: outer, depth =>
    if depth < outer.length then (advance outer depth).map fun (m, outer') => (m, r :: outer')
    else match r.left with
      | .items [] => none
      | .items (m :: items) =>
        some (m, { r with left := .items items, made := r.made + 1 } :: outer)
      | .steps depth' =>
        (advance outer depth').map fun (m, outer') =>
          (.step m depth', { r with made := r.made + 1 } :: outer')

end Loops

namespace Meaning

/-- How a meaning is written inside another one: texts are quoted. -/
def quoted (loops : Loops) : Meaning → Text
  | .given (.text t) => Text.quoted t
  | .given (.list ts) => (Value.list ts).shown
  | .atom a => a.shown
  | .itself file => "<TemplateReference " ++ Text.quoted file ++ ">"
  | .loop depth => loops.shown depth
  | .step m depth => ['('] ++ quoted loops m ++ ", " ++ loops.shown depth ++ [')']
  | .absent => "missing"

/-- How a meaning is written. -/
def shown (loops : Loops) : Meaning → Text
  | .given v => v.shown
  | m => m.quoted loops

/-- Whether a condition on a meaning holds. A loop that runs has a step. -/
def holds : Meaning → Bool
  | .given v => v.holds
  | .atom a => a.holds
  | .itself _ | .loop _ | .step _ _ | .absent => true

/-- A loop over a meaning, before its first step. A loop over the steps of another one is
taken to be as long as that one. -/
def start (loops : Loops) : Meaning → Except Fault Running
  | .given v => .ok ⟨.items (v.items.map fun t => .given (.text t)), 0, v.items.length⟩
  | .atom a => .error (.noItems a.sort)
  | .itself _ => .error .noParts
  | .loop depth =>
    .ok ⟨.steps depth, 0, ((loops.atDepth? depth).map Running.total).getD 0⟩
  | .step m depth => .ok ⟨.items [m, .loop depth], 0, 2⟩
  | .absent => .error (.noItems "MissingType")

end Meaning

end RosBindings.Template

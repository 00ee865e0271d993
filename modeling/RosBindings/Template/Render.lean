import RosBindings.Path
import RosBindings.Template.Layout

/-!
# Writing templates

`render` writes a template under a context. A name without a meaning is an error, and so
is a loop over something without items. The first fault in the order of writing is the
one that counts; a fault of the template's form or layout comes before all others.
-/

namespace RosBindings.Template

/-- Writes the body of the innermost loop for each of its steps, at most `n` of them. -/
def repeatBody (body : Meaning → Loops → Except Fault (Text × Loops)) (depth : Nat) :
    Nat → Loops → Except Fault (Text × Loops)
  | 0, loops => .ok ([], loops)
  | n + 1, loops =>
    match loops.advance depth with
    | none => .ok ([], loops)
    | some (m, stepped) =>
      match body m stepped with
      | .error fault => .error fault
      | .ok (t, after) => (repeatBody body depth n after).map fun (ts, last) => (t ++ ts, last)

mutual

/-- Writes one node, and gives the loops after it. -/
def renderNode (context : Context) (scopes : Scopes) (loops : Loops) :
    Node → Except Fault (Text × Loops)
  | .char c => .ok ([c], loops)
  | .value name =>
    match scopes.read name with
    | .error fault => .error fault
    | .ok m => .ok (m.shown loops, loops)
  | .each item list body =>
    match scopes.read list with
    | .error fault => .error fault
    | .ok m =>
      match m.start loops with
      | .error fault => .error fault
      | .ok running =>
        let depth := loops.length
        let inside : Loops := running :: loops
        let own := loopNames item body
        let others := (freshNames (own ++ scopes.known) body).map (Binding.lookedUp context)
        let write (x : Meaning) (loops' : Loops) :=
          let bound := own.zipWith Binding.own [x, .loop depth]
          renderNodes context ((bound ++ others) :: scopes) loops' body
        (repeatBody write depth (inside.remaining depth) inside).map fun (t, after) =>
          (t, after.tail)
  | .when name body =>
    match scopes.read name with
    | .error fault => .error fault
    | .ok m => if m.holds then renderNodes context scopes loops body else .ok ([], loops)

/-- Writes nodes one after the other. -/
def renderNodes (context : Context) (scopes : Scopes) (loops : Loops) :
    List Node → Except Fault (Text × Loops)
  | [] => .ok ([], loops)
  | node :: nodes =>
    match renderNode context scopes loops node with
    | .error fault => .error fault
    | .ok (t, after) =>
      (renderNodes context scopes after nodes).map fun (ts, last) => (t ++ ts, last)

end

/-- The names of its own that a template binds. -/
def ownNames (tokens : List Token) : List Text := if namesItself tokens then [selfName] else []

/-- The scope of a whole template. -/
def wholeScope (file : Text) (own : List Text) (context : Context) (nodes : List Node) : Scope :=
  own.map (fun name => Binding.own name (.itself file))
    ++ (freshNames own nodes).map (Binding.lookedUp context)

/-- Writes the template of a file, without line feeds at its end. -/
def render (file t : Text) (context : Context) : Except Fault Text :=
  let tokens := lex t
  match parse tokens with
  | .error fault => .error fault
  | .ok nodes =>
    let own := ownNames tokens
    match (Layout.ofTemplate own nodes).fault? (Path.ofText file).name with
    | some fault => .error fault
    | none =>
      (renderNodes context [wholeScope file own context nodes] [] nodes).map fun (text, _) =>
        Text.trimEndBy (· == '\n') text

end RosBindings.Template

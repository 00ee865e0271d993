import RosBindings.Text.Blank
import RosBindings.Text.Lines
import RosBindings.Text.Quoted

/-!
# Templates

A template is plain text with values, loops and conditions in it. A value stands
between double braces; loops and conditions are opened and closed by tags between a
brace and a percent sign, and one line feed right behind such a tag belongs to it.

The supported part of the template language is `{{ name }}`, `{% for item in list %}` up
to `{% endfor %}`, and `{% if name %}` up to `{% endif %}`, where a name is a single word.
All other markup is refused: comments between a brace and a hash sign, other statements,
and more than a word for a value. A word with an operator or a filter in it is a name
without a value.

* `lex` takes a template apart into characters and tags. A word that a tag cannot take
  in its place makes the tag faulty.
* `nest` pairs the closing tags with the opening ones. It reads from the right, so that
  a closing tag opens a level and an opening tag closes it.
* `parse` gives the tree, or the first fault.
-/

namespace RosBindings.Template

/-- What a name stands for in a template. -/
inductive Value
  | text (t : Text)
  | list (ts : List Text)
  deriving DecidableEq, Repr

/-- The names a template may use. -/
abbrev Context := List (Text × Value)

namespace Value

/-- What a loop runs through; a text gives its characters. -/
def items : Value → List Text
  | .text t => t.map fun c => [c]
  | .list ts => ts

/-- Whether a condition on the value holds: it does unless the value is empty. -/
def holds : Value → Bool
  | .text t => !t.isEmpty
  | .list ts => !ts.isEmpty

/-- The value as it is written. -/
def shown : Value → Text
  | .text t => t
  | .list ts => ['['] ++ Text.join ", " (ts.map Text.quoted) ++ [']']

end Value

/-- The two kinds of tags: those that write a value, and all others. -/
inductive TagKind
  | value
  | statement
  deriving DecidableEq, Repr

/-- Why a template is not written. -/
inductive Fault
  /-- A name without a value. -/
  | unbound (name : Text)
  /-- A tag that is not understood, or tags that do not pair. -/
  | malformed
  /-- A negation with nothing behind it, in a tag of this kind. -/
  | nothingNegated (kind : TagKind)
  /-- A loop that would bind a constant. -/
  | bindsConstant
  /-- A loop that would bind the name that stands for loops. -/
  | bindsLoop
  /-- A loop over something of a sort that has no items. -/
  | noItems (sort : Text)
  /-- A loop over the template itself, which has no first part. -/
  | noParts
  /-- A block inside too many others, by the file and the row of its first line. -/
  | tooDeep (file : Text) (row : Nat)
  /-- A loop inside too many others, by the file and its row. -/
  | tooManyLoops (file : Text) (row : Nat)
  deriving DecidableEq, Repr

namespace Fault

/-- How a message names a row of a file. -/
def place (file : Text) (row : Nat) : Text :=
  ['('] ++ file ++ ", line " ++ Text.ofNat row ++ [')']

/-- What is said about a template that is not written. -/
def message : Fault → Text
  | .unbound name => "'" ++ name ++ "' is undefined"
  | .malformed => "malformed template"
  | .nothingNegated .value => "unexpected 'end of print statement'"
  | .nothingNegated .statement => "unexpected 'end of statement block'"
  | .bindsConstant => "can't assign to 'const'"
  | .bindsLoop => "Can't assign to special loop variable in for-loop target"
  | .noItems sort => "'" ++ sort ++ "' object is not iterable"
  | .noParts => "0"
  | .tooDeep file row => "too many levels of indentation " ++ place file row
  | .tooManyLoops file row => "too many statically nested blocks " ++ place file row

/-- Whether the fault is laid to the template; else it is laid to a value or to a limit. -/
def isOfTemplate : Fault → Bool
  | .noItems _ | .noParts | .tooDeep _ _ | .tooManyLoops _ _ => false
  | _ => true

end Fault

/-- A constant that a template may use. -/
structure Atom where
  /-- How it is written. -/
  shown : Text
  /-- What sort of thing it is. -/
  sort : Text
  /-- Whether a condition on it holds. -/
  holds : Bool
  deriving DecidableEq, Repr

/-- The names that stand for a constant wherever they are read. -/
def literals : List (Text × Atom) :=
  [("true", ⟨"True", "bool", true⟩), ("True", ⟨"True", "bool", true⟩),
   ("false", ⟨"False", "bool", false⟩), ("False", ⟨"False", "bool", false⟩),
   ("none", ⟨"None", "NoneType", false⟩), ("None", ⟨"None", "NoneType", false⟩)]

/-- Whether a name stands for a constant wherever it is read. -/
def isLiteral (name : Text) : Bool := (literals.lookup name).isSome

/-- The name that stands for the loop around it. -/
def loopName : Text := "loop"

/-- The name that stands for the template itself. -/
def selfName : Text := "self"

/-- The word that negates what is behind it. -/
def negation : Text := "not"

/-- A tag, or a character of plain text. -/
inductive Token
  | char (c : Char)
  | value (name : Text)
  | each (item list : Text)
  | endEach
  | when (name : Text)
  | endWhen
  | faulty (fault : Fault)
  deriving DecidableEq, Repr

/-- The tag that opens a loop. -/
def eachTag (item list : Text) : Token :=
  if isLiteral item then .faulty .bindsConstant
  else if list = negation then .faulty (.nothingNegated .statement)
  else .each item list

/-- The tag that opens a condition. -/
def whenTag (name : Text) : Token :=
  if name = negation then .faulty (.nothingNegated .statement) else .when name

/-- The tag for what stands between a brace and a percent sign. -/
def tagOf (inside : Text) : Token :=
  match Text.words Text.isBlank inside with
  | [a, item, b, list] =>
    if a = "for" ∧ b = "in" then eachTag item list else .faulty .malformed
  | [a, name] => if a = "if" then whenTag name else .faulty .malformed
  | [a] =>
    if a = "endfor" then .endEach else if a = "endif" then .endWhen else .faulty .malformed
  | _ => .faulty .malformed

/-- The value for what stands between double braces. -/
def valueOf (inside : Text) : Token :=
  match Text.words Text.isBlank inside with
  | [name] => if name = negation then .faulty (.nothingNegated .value) else .value name
  | _ => .faulty .malformed

/-- The tag a template starts with, and how many characters it takes. Of a comment it is
enough to see that it starts. -/
def tagAt? : Text → Option (Token × Nat)
  | '{' :: '{' :: cs =>
    match Text.cut? ['}', '}'] cs with
    | some (inside, _) => some (valueOf inside, inside.length + 4)
    | none => some (.faulty .malformed, cs.length + 2)
  | '{' :: '%' :: cs =>
    match Text.cut? ['%', '}'] cs with
    | some (inside, rest) =>
      some (tagOf inside, inside.length + 4 + (if rest.head? = some '\n' then 1 else 0))
    | none => some (.faulty .malformed, cs.length + 2)
  | '{' :: '#' :: cs => some (.faulty .malformed, cs.length + 2)
  | _ => none

/-- Takes a template apart after leaving out its first `skip` characters. -/
def lexFrom : Nat → Text → List Token
  | _, [] => []
  | skip + 1, _ :: cs => lexFrom skip cs
  | 0, c :: cs =>
    match tagAt? (c :: cs) with
    | some (tag, size) => tag :: lexFrom (size - 1) cs
    | none => .char c :: lexFrom 0 cs

/-- Takes a template apart; its line breaks are unified first. -/
def lex (t : Text) : List Token := lexFrom 0 (Text.unifyBreaks t)

namespace Token

/-- The fault of a faulty tag. -/
def fault? : Token → Option Fault
  | .faulty fault => some fault
  | _ => none

/-- Whether a loop binds the name that stands for loops. -/
def bindsLoop : Token → Bool
  | .each item _ => item == loopName
  | _ => false

end Token

/-- Whether the name of the template itself is read before any loop binds it. Only then
does it stand for the template. -/
def namesItself : List Token → Bool
  | [] => false
  | .value name :: tokens => name == selfName || namesItself tokens
  | .when name :: tokens => name == selfName || namesItself tokens
  | .each item list :: tokens =>
    item != selfName && (list == selfName || namesItself tokens)
  | _ :: tokens => namesItself tokens

/-- A template as a tree. -/
inductive Node
  | char (c : Char)
  | value (name : Text)
  | each (item list : Text) (body : List Node)
  | when (name : Text) (body : List Node)

/-- A level that a closing tag opened: its kind, and what follows the closing tag. -/
inductive Level
  | each (after : List Node)
  | when (after : List Node)

/-- Puts a token in front of what follows it. A closing tag opens a level, and the tag
that it pairs with ends the level. -/
def nestToken : Token → List Node × List Level → Option (List Node × List Level)
  | .char c, (nodes, levels) => some (.char c :: nodes, levels)
  | .value name, (nodes, levels) => some (.value name :: nodes, levels)
  | .endEach, (nodes, levels) => some ([], .each nodes :: levels)
  | .endWhen, (nodes, levels) => some ([], .when nodes :: levels)
  | .each item list, (nodes, .each after :: outer) => some (.each item list nodes :: after, outer)
  | .when name, (nodes, .when after :: outer) => some (.when name nodes :: after, outer)
  | _, _ => none

/-- Pairs tags from the right: the nodes at the present level, and the levels around
it. -/
def nest : List Token → Option (List Node × List Level)
  | [] => some ([], [])
  | token :: tokens => (nest tokens).bind (nestToken token)

/-- Reads a template that has been taken apart. A faulty tag comes before tags that do
not pair. -/
def parse (tokens : List Token) : Except Fault (List Node) :=
  match tokens.findSome? Token.fault? with
  | some fault => .error fault
  | none =>
    match nest tokens with
    | some (nodes, []) => if tokens.any Token.bindsLoop then .error .bindsLoop else .ok nodes
    | _ => .error .malformed

end RosBindings.Template

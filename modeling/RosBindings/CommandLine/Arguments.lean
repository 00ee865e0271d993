import RosBindings.Dialect
import RosBindings.FieldType
import RosBindings.Setting

/-!
# Arguments of the command line

Four words in a fixed order, with switches anywhere between them.

* A long switch may be shortened as long as it stays unique, and takes its value from
  the next word or behind an equals sign. Short switches may be written together.
* Two hyphens end the switches. A negative number, a single hyphen and a word with a
  space in it are no switches, whatever they start with.
* Two hyphens once more, in the place of a value, leave the value empty; right behind
  those that end the switches they are a word like any other.
* Words are dealt with from left to right, so of two faults the first one is reported;
  missing words, and then surplus ones, are noticed at the end.
-/

namespace RosBindings.CommandLine

/-- A switch. -/
inductive Switch
  | help
  | msgFolder
  | runtimePackage
  | keepGoing
  | verbose
  deriving DecidableEq, Repr

/-- The ways to write each switch. -/
def spellings : List (Text × Switch) :=
  [("-h", .help), ("--help", .help), ("--msg-folder", .msgFolder),
   ("--runtime-package", .runtimePackage), ("--keep-going", .keepGoing), ("-v", .verbose),
   ("--verbose", .verbose)]

namespace Switch

/-- Whether a switch takes a value. -/
def takesValue : Switch → Bool
  | .msgFolder | .runtimePackage => true
  | .help | .keepGoing | .verbose => false

/-- How messages call a switch: by all its spellings. -/
def label (s : Switch) : Text :=
  Text.join ['/'] ((spellings.filter (·.2 == s)).map (·.1))

end Switch

/-- The names of the words that are not switches, in their order. -/
def wordNames : List Text := ["ros_version", "java_package", "input", "output_dir"]

/-- What the command line asks for. -/
structure Options where
  dialect : Dialect
  javaPackage : Setting
  input : Setting
  outputFolder : Setting
  msgFolder : Option Text := none
  runtime : Setting := .word defaultRuntime
  keepGoing : Bool := false
  verbose : Bool := false
  deriving DecidableEq, Repr

/-- Why a command line is not carried out. -/
inductive Refusal
  /-- Help was asked for. -/
  | help
  | required (names : List Text)
  | unrecognized (words : List Text)
  | invalidChoice (value : Text)
  | expectedValue (s : Switch)
  | ignoredValue (s : Switch) (value : Text)
  | ambiguous (word : Text) (candidates : List Text)
  deriving DecidableEq, Repr

/-- What is said about a refused command line. -/
def Refusal.message : Refusal → Text
  | .help => []
  | .required names => "the following arguments are required: " ++ Text.join ", " names
  | .unrecognized words => "unrecognized arguments: " ++ Text.join [' '] words
  | .invalidChoice value =>
    "argument ros_version: invalid choice: " ++ Text.quoted value ++ " (choose from "
      ++ Text.join ", " (Dialect.all.map fun d => Text.quoted d.label) ++ ")"
  | .expectedValue s => "argument " ++ s.label ++ ": expected one argument"
  | .ignoredValue s value =>
    "argument " ++ s.label ++ ": ignored explicit argument " ++ Text.quoted value
  | .ambiguous word candidates =>
    "ambiguous option: " ++ word ++ " could match " ++ Text.join ", " candidates

/-- How a word of the command line is understood. -/
inductive Word
  | plain (text : Text)
  /-- A switch, its spelling, and the value that is attached to it. -/
  | switch (s : Switch) (spelling : Text) (attached : Option Text)
  /-- Something that looks like a switch. -/
  | unknown (text : Text)
  /-- The end of the switches. -/
  | stop
  deriving DecidableEq, Repr

/-- The word that ends the switches. -/
def stopText : Text := "--"

/-- Whether a word is a negative number. One line feed may stand behind it. -/
def isNegativeNumber : Text → Bool
  | '-' :: cs =>
    let body := (Text.beforeSuffix? ['\n'] cs).getD cs
    let rest := body.dropWhile Text.isDecimal
    match rest with
    | [] => !body.isEmpty
    | '.' :: fraction => !fraction.isEmpty && fraction.all Text.isDecimal
    | _ => false
  | _ => false

/-- A word at the first equals sign: what stands before it, and behind it if it is
there. -/
def splitValue (word : Text) : Text × Option Text :=
  match Text.cut? ['='] word with
  | some (before, value) => (before, some value)
  | none => (word, none)

/-- The switches a word may stand for when none is spelled out in it. -/
def candidates (word : Text) : List (Text × Switch × Option Text) :=
  match word with
  | '-' :: '-' :: _ =>
    let (start, value) := splitValue word
    (spellings.filter fun (spelling, _) => start.isPrefixOf spelling).map fun (spelling, s) =>
      (spelling, s, value)
  | _ =>
    spellings.filterMap fun (spelling, s) =>
      if spelling = word.take 2 then some (spelling, s, some (word.drop 2))
      else if word.isPrefixOf spelling then some (spelling, s, none)
      else none

/-- Understands a word that starts with a hyphen and goes on. -/
def readSwitch (word : Text) : Except Refusal Word :=
  match candidates word with
  | [(spelling, s, attached)] => .ok (.switch s spelling attached)
  | [] =>
    if isNegativeNumber word || word.contains ' ' then .ok (.plain word) else .ok (.unknown word)
  | several => .error (.ambiguous word (several.map (·.1)))

/-- Understands a word. -/
def readWord (word : Text) : Except Refusal Word :=
  match word with
  | '-' :: _ :: _ =>
    match spellings.lookup word with
    | some s => .ok (.switch s word none)
    | none =>
      match splitValue word with
      | (spelling, some value) =>
        match spellings.lookup spelling with
        | some s => .ok (.switch s spelling (some value))
        | none => readSwitch word
      | (_, none) => readSwitch word
  | _ => .ok (.plain word)

/-- Understands the words of a command line. -/
def readWords : List Text → Except Refusal (List Word)
  | [] => .ok []
  | word :: words =>
    if word = stopText then .ok (.stop :: words.map .plain)
    else do
      let w ← readWord word
      let ws ← readWords words
      pure (w :: ws)

/-- What has been gathered from the words so far. -/
structure Gathered where
  /-- The first word that is not a switch. -/
  dialect : Option Dialect := none
  /-- The words after it that are not switches. -/
  words : List Setting := []
  msgFolder : Option Text := none
  runtime : Setting := .word defaultRuntime
  keepGoing : Bool := false
  verbose : Bool := false
  surplus : List Text := []
  deriving DecidableEq, Repr

namespace Gathered

/-- Takes the next word that is not a switch; the first one must name a dialect. -/
def takeWord (g : Gathered) (word : Setting) : Except Refusal Gathered :=
  match g.dialect with
  | some _ => .ok { g with words := g.words ++ [word] }
  | none =>
    let label := word.word?.getD stopText
    match Dialect.ofLabel? label with
    | some d => .ok { g with dialect := some d }
    | none => .error (.invalidChoice label)

/-- Carries out a switch, with the value for those that take one. -/
def takeSwitch (g : Gathered) (s : Switch) (value : Setting) : Except Refusal Gathered :=
  match s with
  | .help => .error .help
  | .msgFolder => .ok { g with msgFolder := value.word? }
  | .runtimePackage => .ok { g with runtime := value }
  | .keepGoing => .ok { g with keepGoing := true }
  | .verbose => .ok { g with verbose := true }

/-- How many words that are not switches have been taken. -/
def taken (g : Gathered) : Nat := g.dialect.toList.length + g.words.length

/-- Whether words that are not switches are still missing. -/
def isShort (g : Gathered) : Bool := g.taken < wordNames.length

end Gathered

/-- The switches that a short one and what is attached to it stand for. -/
def cluster (s : Switch) : Text → Except Refusal (List Switch)
  | [] => .ok [s]
  | c :: cs =>
    match spellings.lookup ['-', c] with
    | none => .error (.ignoredValue s (c :: cs))
    | some next => (cluster next cs).map (s :: ·)

/-- The switches of a word, none of which takes a value. -/
def plainSwitches (s : Switch) (spelling : Text) (attached : Option Text) :
    Except Refusal (List Switch) :=
  match attached with
  | none => .ok [s]
  | some [] => .error (.ignoredValue s [])
  | some (c :: cs) =>
    if spelling.length = 2 then cluster s (c :: cs) else .error (.ignoredValue s (c :: cs))

/-- Gathers what the words say, from left to right. Words beyond the four are surplus,
and so is the end of the switches unless it stands next to one of the four. -/
def gather (g : Gathered) : List Word → Except Refusal Gathered
  | [] => .ok g
  | .unknown t :: rest => gather { g with surplus := g.surplus ++ [t] } rest
  | .stop :: .plain t :: rest =>
    if g.isShort then do
      let g ← g.takeWord (.word t)
      gather g rest
    else gather { g with surplus := g.surplus ++ [stopText, t] } rest
  | .stop :: rest => gather { g with surplus := g.surplus ++ [stopText] } rest
  | .plain t :: rest =>
    if g.isShort then do
      let g ← g.takeWord (.ofWord t)
      match rest with
      | .stop :: rest => gather g rest
      | rest => gather g rest
    else gather { g with surplus := g.surplus ++ [t] } rest
  | .switch s spelling attached :: rest =>
    if s.takesValue then
      match attached, rest with
      | some value, rest => do
        let g ← g.takeSwitch s (.ofWord value)
        gather g rest
      | none, .plain value :: rest => do
        let g ← g.takeSwitch s (.ofWord value)
        gather g rest
      | none, _ => .error (.expectedValue s)
    else do
      let switches ← plainSwitches s spelling attached
      let g ← switches.foldlM (fun g s => g.takeSwitch s .empty) g
      gather g rest

/-- The options that were gathered, if nothing is missing and nothing is left over. -/
def Gathered.options (g : Gathered) : Except Refusal Options :=
  match g.dialect, g.words, g.surplus with
  | some dialect, [javaPackage, input, outputFolder], [] =>
    .ok { dialect, javaPackage, input, outputFolder
          msgFolder := g.msgFolder
          runtime := g.runtime
          keepGoing := g.keepGoing
          verbose := g.verbose }
  | _, _, surplus =>
    if g.isShort then .error (.required (wordNames.drop g.taken))
    else .error (.unrecognized surplus)

/-- Reads a command line. -/
def parse (args : List Text) : Except Refusal Options := do
  let words ← readWords args
  let g ← gather {} words
  g.options

end RosBindings.CommandLine

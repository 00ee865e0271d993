import RosBindings.Generation
import RosBindings.Proofs.NewFiles
import RosBindings.Proofs.Writing

/-!
# Files are written once

Generation never touches an entry that is there, be it a link that leads nowhere, and it
never leaves part of a file behind, be it that the device breaks off while it is written.

* `Generates` says how the generation of one class can end on a device that does not break off,
  and `Breaks` when it does; `generate_cases`: there is nothing else.
* `generateEach_files`: what each class does to the files, a whole run does.
* `generation_writes_once`: requests of any kind and outcome keep every entry, and one
  class is one new file with the text of the class, or no change.
-/

namespace RosBindings

open FileTree (Grows)

/-! ## Drafts -/

theorem Traced.outcome_bind {α β : Type} (x : Traced α) (f : α → Traced β) :
    (x >>= f).outcome = x.outcome >>= fun a => (f a).outcome := by
  obtain ⟨outcome, events⟩ := x
  cases outcome <;> rfl

namespace Generator

variable {g : Generator} {device : Device} {files : FileTree} {identifier text : Text}
  {b : JavaClass.Build}

theorem draft_outcome (g : Generator) (files : FileTree) (identifier : Text) :
    (g.draft files identifier).outcome = (do
      let lines ← (g.source.readLines (g.world files) identifier).outcome
      let d ← readUnder g.config.runtime lines (messageName identifier)
      let checksum ← (g.source.checksum (g.world files) identifier).outcome
      JavaClass.build (g.style files) d checksum { className := Naming.className identifier }) := by
  have hread : ∀ lines, (readDefinition g.config.runtime lines (messageName identifier)).outcome =
      readUnder g.config.runtime lines (messageName identifier) := by
    intro lines
    unfold readDefinition
    split <;> next h => exact h.symm
  unfold draft
  simp only [Traced.outcome_bind, hread]
  rfl

/-- The text rendered for a message: the class of the definition that its lines are read as,
under its checksum. -/
def Renders (g : Generator) (files : FileTree) (identifier text : Text) : Prop :=
  ∃ lines d checksum b,
    (g.source.readLines (g.world files) identifier).outcome = .ok lines ∧
    readUnder g.config.runtime lines (messageName identifier) = .ok d ∧
    (g.source.checksum (g.world files) identifier).outcome = .ok checksum ∧
    JavaClass.build (g.style files) d checksum { className := Naming.className identifier } =
      .ok (b, text)

theorem renders_of_draft (h : (g.draft files identifier).outcome = .ok (b, text)) :
    g.Renders files identifier text ∧ b.stage = .globalSubstituted := by
  rw [draft_outcome] at h
  cases hl : (g.source.readLines (g.world files) identifier).outcome with
  | error e => rw [hl] at h; cases h
  | ok lines =>
    rw [hl] at h
    cases hd : readUnder g.config.runtime lines (messageName identifier) with
    | error e => simp only [bind, Except.bind, hd] at h; cases h
    | ok d =>
      cases hs : (g.source.checksum (g.world files) identifier).outcome with
      | error e => simp only [bind, Except.bind, hd, hs] at h; cases h
      | ok checksum =>
        simp only [bind, Except.bind, hd, hs] at h
        exact ⟨⟨lines, d, checksum, b, hl, hd, hs, h⟩, JavaClass.stage_of_build h⟩

/-! ## One class -/

/-- How the generation of a class ends on a sound device: with a result, and with files. -/
inductive Generates (g : Generator) (files : FileTree) (identifier : Text) :
    Except Failure (Option Path) → FileTree → Prop
  /-- It cannot be told whether the file is there. -/
  | unclear (e : FileError) (h : files.isPresent (g.outputPath identifier) = .error e) :
    Generates g files identifier (.error (.file e)) files
  /-- The file is there. -/
  | present (h : files.isPresent (g.outputPath identifier) = .ok true) :
    Generates g files identifier (.ok none) files
  /-- There is no text to write. -/
  | undrafted (e : Failure) (h : files.isPresent (g.outputPath identifier) = .ok false)
    (hd : (g.draft files identifier).outcome = .error e) :
    Generates g files identifier (.error e) files
  /-- The file is not created. -/
  | refused (text : Text) (e : FileError)
    (h : files.isPresent (g.outputPath identifier) = .ok false)
    (hd : ∃ b, (g.draft files identifier).outcome = .ok (b, text))
    (hc : files.create (g.outputPath identifier) (Text.encode text) = .error e) :
    Generates g files identifier (.error (.file e)) files
  /-- The file is new. -/
  | written (text : Text) (location : Location)
    (h : files.isPresent (g.outputPath identifier) = .ok false)
    (hd : g.Renders files identifier text)
    (hf : files.find .kept (g.outputPath identifier) = .ok (.free location)) :
    Generates g files identifier (.ok (some (g.outputPath identifier)))
      (files.add location (.file (Text.encode text)))

/-- The file of a class is created, and its writing breaks off. -/
def Breaks (g : Generator) (device : Device) (files : FileTree) (identifier : Text)
    (broken : Breakdown) : Prop :=
  files.isPresent (g.outputPath identifier) = .ok false ∧ ∃ text location,
    g.Renders files identifier text ∧
    files.find .kept (g.outputPath identifier) = .ok (.free location) ∧
    device.breakdown? (files.add location (.file .empty)) (g.outputPath identifier)
      (Text.encode text) = some broken

theorem not_breaks_sound {broken : Breakdown} : ¬ g.Breaks .sound files identifier broken := by
  rintro ⟨-, text, location, -, -, hb⟩
  cases hb

theorem advance_written {b : JavaClass.Build} (h : b.stage = .globalSubstituted) :
    b.advance .written = .ok { b with stage := .written } :=
  JavaClass.Build.advance_eq_ok (h ▸ rfl) (h ▸ by decide)

theorem create_cases (files : FileTree) (p : Path) (content : ByteArray) :
    (∃ e, files.create p content = .error e) ∨ ∃ location,
      files.find .kept p = .ok (.free location) ∧
      files.create p content = .ok (files.add location (.file content)) := by
  unfold FileTree.create FileTree.addNew
  cases files.find .kept p with
  | error cause => exact .inl ⟨_, rfl⟩
  | ok s =>
    cases s with
    | taken location entry => exact .inl ⟨_, rfl⟩
    | free location => exact .inr ⟨location, rfl, rfl⟩

theorem draft_of_renders (h : g.Renders files identifier text) :
    ∃ b, (g.draft files identifier).outcome = .ok (b, text) := by
  obtain ⟨lines, d, checksum, b, hl, hd, hs, hb⟩ := h
  refine ⟨b, ?_⟩
  rw [draft_outcome, hl]
  simp only [bind, Except.bind, hd, hs, hb]

/-- A class whose writing breaks off fails for that, and what was written of it is gone. -/
theorem generate_of_breaks {broken : Breakdown} (h : g.Breaks device files identifier broken) :
    (g.generate files identifier device).result = .error broken.failure ∧
      (g.generate files identifier device).files = files := by
  obtain ⟨hp, text, location, hrenders, hf, hb⟩ := h
  obtain ⟨b, hd⟩ := draft_of_renders hrenders
  unfold generate
  simp only [hp, hd, Device.writeWhole_of_broken hf hb, and_self]

/-- A class that is written to its end is complete: there is nothing left that can fail. -/
theorem generate_of_whole {location : Location}
    (hp : files.isPresent (g.outputPath identifier) = .ok false)
    (hrenders : g.Renders files identifier text)
    (hf : files.find .kept (g.outputPath identifier) = .ok (.free location))
    (hb : device.breakdown? (files.add location (.file .empty)) (g.outputPath identifier)
      (Text.encode text) = none) :
    (g.generate files identifier device).result = .ok (some (g.outputPath identifier)) ∧
      (g.generate files identifier device).files =
        files.add location (.file (Text.encode text)) := by
  obtain ⟨b, hd⟩ := draft_of_renders hrenders
  have hwritten := advance_written (renders_of_draft hd).2
  unfold generate
  simp only [hp, hd, Device.writeWhole_of_whole hf hb, hwritten, and_self]

/-- **How the generation of a class ends**, if its writing does not break off. -/
theorem Generates.eq_of_whole {result : Except Failure (Option Path)} {after : FileTree}
    (h : Generates g files identifier result after)
    (hwhole : ∀ broken, ¬ g.Breaks device files identifier broken) :
    (g.generate files identifier device).result = result ∧
      (g.generate files identifier device).files = after := by
  cases h with
  | unclear e hp => unfold generate; simp only [hp, and_self]
  | present hp => unfold generate; simp only [hp, and_self]
  | undrafted e hp hd => unfold generate; simp only [hp, hd, and_self]
  | refused text e hp hd hc =>
    obtain ⟨b, hd⟩ := hd
    unfold generate
    simp only [hp, hd, Device.writeWhole_of_refused hc, and_self]
  | written text location hp hd hf =>
    refine generate_of_whole hp hd hf ?_
    cases hb : device.breakdown? (files.add location (.file .empty)) (g.outputPath identifier)
        (Text.encode text) with
    | none => rfl
    | some broken => exact absurd ⟨hp, text, location, hd, hf, hb⟩ (hwhole broken)

/-- There is no other way for it to end on a sound device. -/
theorem Generates.eq {result : Except Failure (Option Path)} {after : FileTree}
    (h : Generates g files identifier result after) :
    (g.generate files identifier).result = result ∧
      (g.generate files identifier).files = after :=
  h.eq_of_whole fun _ => not_breaks_sound

/-- Every class ends in one of these ways. -/
theorem exists_generates (g : Generator) (files : FileTree) (identifier : Text) :
    ∃ result after, Generates g files identifier result after := by
  cases hp : files.isPresent (g.outputPath identifier) with
  | error e => exact ⟨_, _, .unclear e hp⟩
  | ok there =>
    cases there with
    | true => exact ⟨_, _, .present hp⟩
    | false =>
      cases hd : (g.draft files identifier).outcome with
      | error e => exact ⟨_, _, .undrafted e hp hd⟩
      | ok drafted =>
        obtain ⟨b, text⟩ := drafted
        rcases create_cases files (g.outputPath identifier) (Text.encode text) with
          ⟨e, hc⟩ | ⟨location, hf, -⟩
        · exact ⟨_, _, .refused text e hp ⟨b, hd⟩ hc⟩
        · exact ⟨_, _, .written text location hp (renders_of_draft hd).1 hf⟩

/-- **Whatever the device does**, a class ends as on a sound one, or its writing breaks off and
leaves no trace. -/
theorem generate_cases (g : Generator) (device : Device) (files : FileTree) (identifier : Text) :
    let o := g.generate files identifier device
    Generates g files identifier o.result o.files ∨
      ∃ broken, g.Breaks device files identifier broken ∧ o.result = .error broken.failure ∧
        o.files = files := by
  intro o
  by_cases h : ∃ broken, g.Breaks device files identifier broken
  · obtain ⟨broken, hbreaks⟩ := h
    exact .inr ⟨broken, hbreaks, generate_of_breaks hbreaks⟩
  · obtain ⟨result, after, hends⟩ := g.exists_generates files identifier
    obtain ⟨hresult, hafter⟩ := hends.eq_of_whole (not_exists.1 h)
    rw [← hresult, ← hafter] at hends
    exact .inl hends

theorem generate_spec (g : Generator) (files : FileTree) (identifier : Text) :
    Generates g files identifier (g.generate files identifier).result
      (g.generate files identifier).files := by
  rcases g.generate_cases .sound files identifier with hends | ⟨broken, hbreaks, -⟩
  · exact hends
  · exact absurd hbreaks not_breaks_sound

/-- A class that fails changes nothing. -/
theorem files_of_error {e : Failure} (h : (g.generate files identifier).result = .error e) :
    (g.generate files identifier).files = files := by
  have hspec := g.generate_spec files identifier
  rw [h] at hspec
  generalize (g.generate files identifier).files = after at hspec ⊢
  cases hspec <;> rfl

/-- A class adds a file at most, at a free place of its path. -/
theorem Generates.grows {result : Except Failure (Option Path)} {after : FileTree}
    {P : Location → Prop} (h : Generates g files identifier result after)
    (hP : ∀ location, files.find .kept (g.outputPath identifier) = .ok (.free location) →
      P location) : Grows P files after := by
  cases h with
  | unclear | present | undrafted | refused => exact .refl P files
  | written text location _ _ hf =>
    exact .add (hP location hf) (FileTree.lookup_of_find hf) (Text.encode text)

/-! ## Runs -/

/-- **What every class does to the files, a run does.** -/
theorem generateEach_files {R : FileTree → FileTree → Prop} (hrefl : ∀ a, R a a)
    (htrans : ∀ {a b c}, R a b → R b c → R a c)
    (hstep : ∀ files identifier, R files (g.generate files identifier device).files)
    (identifiers : List Text) (files : FileTree) (report : Report) :
    R files (g.generateEach identifiers files report device).files := by
  induction identifiers generalizing files report with
  | nil => exact hrefl files
  | cons identifier rest ih =>
    have hfirst := hstep files identifier
    unfold generateEach
    simp only
    split
    · exact htrans hfirst (ih _ _)
    · exact htrans hfirst (ih _ _)
    · split
      · exact htrans hfirst (ih _ _)
      · exact hfirst

theorem generateAll_files {R : FileTree → FileTree → Prop} (hrefl : ∀ a, R a a)
    (htrans : ∀ {a b c}, R a b → R b c → R a c)
    (hstep : ∀ files identifier, R files (g.generate files identifier device).files)
    (files : FileTree) (value : Text) : R files (g.generateAll files value device).files := by
  unfold generateAll
  simp only
  split
  · exact hrefl files
  · exact generateEach_files hrefl htrans hstep _ files {}

end Generator

/-! ## Requests -/

/-- What a generator is asked for. -/
inductive Request
  /-- The class of a message. -/
  | one (identifier : Text)
  /-- The classes of a package, or of a message. -/
  | all (value : Text)

/-- The files after a request, whatever comes of it. -/
def Generator.filesAfter (g : Generator) (files : FileTree) (r : Request)
    (device : Device := .sound) : FileTree :=
  match r with
  | .one identifier => (g.generate files identifier device).files
  | .all value => (g.generateAll files value device).files

/-- One tree differs from another by a new file, which a path leads to. -/
structure FileTree.Gains (before after : FileTree) (p : Path) (content : ByteArray) : Prop where
  here : after.here = before.here
  file : ∃ location, before.lookup location = none ∧
    after.entries = before.entries ++ [(location, .file content)] ∧
    after.lookup location = some (.file content) ∧
    (∀ l, l ≠ location → after.lookup l = before.lookup l) ∧
    after.find .kept p = .ok (.taken location (.file content))
  read : after.read p = .ok content

/-- A file added where a path leads is found there. -/
theorem FileTree.gains_add {files : FileTree} {p : Path} {location : Location}
    (hf : files.find .kept p = .ok (.free location)) (content : ByteArray) :
    files.Gains (files.add location (.file content)) p content := by
  have hfree := lookup_of_find hf
  have hkept := find_add hf content
  refine ⟨rfl, ⟨location, hfree, rfl, lookup_add_self hfree, fun l hl => lookup_add_of_ne hl,
    hkept⟩, ?_⟩
  rw [read, find_followed rfl hkept]

end RosBindings

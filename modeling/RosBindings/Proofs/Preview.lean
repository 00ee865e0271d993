import RosBindings.Proofs.Comments
import RosBindings.Proofs.WriteOnce

/-!
# Previews of classes

The class of a message can be rendered without a file for it. A preview names the class by
the name of the message, which is short for the identifier; generation names it by the
identifier itself. Identifiers are spelled in many ways: with slashes at the ends, doubled
slashes, dots between slashes and backslashes.

* `className_messageName`: the two names are one, wherever the last segment of the
  identifier names anything.
* `draft_text`: the text that generation drafts is the preview.
* `generate_writes_preview`: so the file of a class holds the preview, and generation fails
  as the preview does.
-/

namespace RosBindings

open Naming (className)

variable {identifier : Text}

/-! ## Names of identifiers -/

/-- The last segment of an identifier, slashes at its ends aside. -/
def lastSegment (identifier : Text) : Text :=
  (Text.pieces (· == '/') (Text.trimBy (· == '/') identifier)).getLast?.getD []

/-- Whether the last segment names anything: it is more than dots and backslashes. -/
def EndsInName (identifier : Text) : Prop := ∃ c ∈ lastSegment identifier, c ≠ '.' ∧ c ≠ '\\'

theorem EndsInName.segmentsOf_ne_nil (h : EndsInName identifier) :
    Path.segmentsOf (Naming.unifySlashes (lastSegment identifier)) ≠ [] := by
  obtain ⟨c, hc, hdot, hback⟩ := h
  have hne := Text.pieces_ne_nil (· == '/') (Text.trimBy (· == '/') identifier)
  have hslash : c ≠ '/' := by
    rw [lastSegment, List.getLast?_eq_some_getLast hne, Option.getD_some] at hc
    have hsep := (Text.mem_of_mem_pieces (List.getLast_mem hne) hc).2
    simpa using hsep
  exact Naming.segmentsOf_ne_nil hc hdot hslash hback

/-- **The name of a message and its identifier name one class.** -/
theorem className_messageName (h : EndsInName identifier) :
    className (messageName identifier) = className identifier := by
  have hends := h.segmentsOf_ne_nil
  obtain ⟨left, right, hl, hr, haround⟩ := Text.exists_around_trimBy (· == '/') identifier
  unfold messageName
  split
  · next package segment rest hpieces =>
    -- both end in the last segment, behind a slash
    obtain ⟨init, last, hlast⟩ : ∃ init last, segment :: rest = init ++ [last] :=
      ⟨_, _, (List.dropLast_append_getLast (List.cons_ne_nil segment rest)).symm⟩
    rw [hlast, ← List.cons_append] at hpieces
    rw [hlast]
    have hsegment : lastSegment identifier = last := by
      rw [lastSegment, hpieces, List.getLast?_concat, Option.getD_some]
    obtain ⟨before, hbefore⟩ :=
      Text.exists_before_last_piece hpieces (List.cons_ne_nil package init)
    rw [hsegment] at hends
    calc className (package ++ ['/'] ++ (init ++ [last]).getLast?.getD [])
        = className (package ++ '/' :: last) := by simp
      _ = className last := Naming.className_append_slash package hends
      _ = className (before ++ '/' :: last) := (Naming.className_append_slash before hends).symm
      _ = className (Text.trimBy (· == '/') identifier) := by rw [hbefore]
      _ = className identifier := by
        rw [← Naming.className_slashes_around hl hr, ← haround]
  · rfl

/-- A last segment that names nothing makes a difference. -/
example : className (messageName "p/A/.") = "PMessage" ∧ className "p/A/." = "AMessage" := by
  decide +kernel

/-! ## Previews -/

namespace Generator

variable {g : Generator} {files : FileTree}

/-- The class of a message, rendered under the name of the message. -/
def preview (g : Generator) (files : FileTree) (identifier : Text) : Except Failure Text := do
  let lines ← (g.source.readLines (g.world files) identifier).outcome
  let d ← readUnder g.config.runtime lines (messageName identifier)
  let checksum ← (g.source.checksum (g.world files) identifier).outcome
  JavaClass.render (g.style files) d checksum

/-- Under the packaged fragments every message that can be read has a preview. -/
theorem preview_packaged {lines : List Text} {d : Definition} {checksum : Option Text}
    (hp : g.config.templates = .packaged)
    (hl : (g.source.readLines (g.world files) identifier).outcome = .ok lines)
    (hd : readUnder g.config.runtime lines (messageName identifier) = .ok d)
    (hc : (g.source.checksum (g.world files) identifier).outcome = .ok checksum) :
    ∃ text, g.preview files identifier = .ok text := by
  have hpackaged : (g.style files).IsPackaged := ⟨files, by rw [style, hp]⟩
  refine ⟨JavaClass.classText (g.style files) d checksum, ?_⟩
  rw [preview, hl, hc]
  simp only [bind, Except.bind, hd]
  exact JavaClass.render_packaged hpackaged d checksum

theorem name_of_readUnder {runtime : Setting} {lines : List Text} {name : Text} {d : Definition}
    (h : readUnder runtime lines name = .ok d) : d.name = name := by
  cases runtime with
  | word package =>
    simp only [readUnder] at h
    cases hp : Definition.parse lines name package with
    | error e => rw [hp] at h; cases h
    | ok d' =>
      rw [hp] at h
      cases h
      exact (JavaClass.parse_trims hp).1
  | empty =>
    simp only [readUnder, readUntyped] at h
    cases hf : (Line.normalize lines).find? Line.isField with
    | none => rw [hf] at h; cases h; rfl
    | some line =>
      -- the first field fails in one way or another
      exfalso
      rw [hf] at h
      simp only at h
      split at h
      · cases h
      · split at h <;> cases h

/-- **The text that is drafted for a message is its preview.** -/
theorem draft_text (h : EndsInName identifier) :
    (g.draft files identifier).outcome.map (·.2) = g.preview files identifier := by
  rw [draft_outcome, preview]
  cases (g.source.readLines (g.world files) identifier).outcome with
  | error e => rfl
  | ok lines =>
    cases hd : readUnder g.config.runtime lines (messageName identifier) with
    | error e => simp only [bind, Except.bind, hd]; rfl
    | ok d =>
      cases hc : (g.source.checksum (g.world files) identifier).outcome with
      | error e => simp only [bind, Except.bind, hd]; rfl
      | ok checksum =>
        -- the two differ in the text that the class is named by
        simp only [bind, Except.bind, hd, JavaClass.render, name_of_readUnder hd,
          className_messageName h]

theorem draft_of_preview_error {e : Failure} (h : EndsInName identifier)
    (hp : g.preview files identifier = .error e) :
    (g.draft files identifier).outcome = .error e := by
  rw [← draft_text h] at hp
  cases hd : (g.draft files identifier).outcome with
  | error e' => rw [hd] at hp; cases hp; rfl
  | ok drafted => rw [hd] at hp; cases hp

theorem renders_iff_preview {text : Text} (h : EndsInName identifier) :
    g.Renders files identifier text ↔ g.preview files identifier = .ok text := by
  rw [← draft_text h]
  constructor
  · intro hrenders
    obtain ⟨b, hb⟩ := draft_of_renders hrenders
    rw [hb]
    rfl
  · intro hp
    cases hd : (g.draft files identifier).outcome with
    | error e => rw [hd] at hp; cases hp
    | ok drafted =>
      rw [hd] at hp
      cases hp
      exact (renders_of_draft hd).1

/-- **Generation writes the preview.** The name of a message and its identifier name one
class. The file that generation adds holds the preview of the message and nothing else. Where
the file is not there yet, generation fails as the preview fails, and a preview that can be
written is written. -/
theorem generate_writes_preview (g : Generator) (files : FileTree) (h : EndsInName identifier) :
    let o := g.generate files identifier
    className (messageName identifier) = className identifier ∧
    (∀ path, o.result = .ok (some path) → path = g.outputPath identifier ∧ ∃ text,
      g.preview files identifier = .ok text ∧ files.Gains o.files path (Text.encode text)) ∧
    (files.isPresent (g.outputPath identifier) = .ok false →
      (∀ e, g.preview files identifier = .error e → o.result = .error e ∧ o.files = files) ∧
      ∀ text after, g.preview files identifier = .ok text →
        files.create (g.outputPath identifier) (Text.encode text) = .ok after →
        o.result = .ok (some (g.outputPath identifier)) ∧ o.files = after) := by
  intro o
  refine ⟨className_messageName h, fun path hpath => ?_, fun hfree => ⟨fun e he => ?_, ?_⟩⟩
  · have hspec : Generates g files identifier o.result o.files := g.generate_spec files identifier
    rw [hpath] at hspec
    generalize o.files = after at hspec ⊢
    cases hspec with
    | written text location _ hrenders hf =>
      exact ⟨rfl, text, (renders_iff_preview h).1 hrenders, FileTree.gains_add hf _⟩
  · exact Generates.eq (.undrafted e hfree (draft_of_preview_error h he))
  · intro text after hp hcreate
    rcases create_cases files (g.outputPath identifier) (Text.encode text) with
      ⟨e, hfail⟩ | ⟨location, hf, hadd⟩
    · rw [hfail] at hcreate; cases hcreate
    · rw [hadd] at hcreate
      cases hcreate
      exact Generates.eq (.written text location hfree ((renders_iff_preview h).2 hp) hf)

/-- A message under an identifier with slashes at the ends and a backslash in its last
segment. -/
theorem generate_writes_preview_backslash :
    let identifier : Text := "/p//.\\My_type.msg/"
    let path : Path := ⟨.here, ["out", "MyTypeMessage.java"]⟩
    let g : Generator :=
      { config := { javaPackage := "org.example", outputFolder := ⟨.here, ["out"]⟩ }
        source := .catalogue .ros1 [(identifier, "int8 a")] [] }
    let files : FileTree := ⟨[], [(["out"], .folder)]⟩
    EndsInName identifier ∧ messageName identifier = "p/.\\My_type.msg" ∧
      className (messageName identifier) = className identifier ∧
      files.isPresent path = .ok false ∧
      (g.generate files identifier).result = .ok (some path) ∧
      ∃ text, g.preview files identifier = .ok text ∧
        (g.generate files identifier).files.read path = .ok (Text.encode text) := by
  intro identifier path g files
  have hends : EndsInName identifier := ⟨'M', by decide +kernel, by decide, by decide⟩
  have hpath : g.outputPath identifier = path := by decide +kernel
  have hfree : files.isPresent path = .ok false := by decide +kernel
  have hfind : files.find .kept path = .ok (.free ["out", "MyTypeMessage.java"]) := by
    decide +kernel
  have hlines : (g.source.readLines (g.world files) identifier).outcome = .ok ["int8 a"] := by
    decide +kernel
  have hsum : (g.source.checksum (g.world files) identifier).outcome = .ok none := by
    decide +kernel
  obtain ⟨d, hread⟩ : ∃ d,
      readUnder g.config.runtime ["int8 a"] (messageName identifier) = .ok d := by
    have hok : (readUnder g.config.runtime ["int8 a"] (messageName identifier)).isOk = true := by
      decide +kernel
    cases hd : readUnder g.config.runtime ["int8 a"] (messageName identifier) with
    | error e => rw [hd] at hok; cases hok
    | ok d => exact ⟨d, rfl⟩
  obtain ⟨text, hp⟩ := preview_packaged rfl hlines hread hsum
  have hcreate : files.create path (Text.encode text) =
      .ok (files.add ["out", "MyTypeMessage.java"] (.file (Text.encode text))) := by
    rw [FileTree.create, FileTree.addNew, hfind]
  obtain ⟨hname, hwritten, hfresh⟩ := generate_writes_preview g files hends
  rw [hpath] at hfresh
  have hresult := ((hfresh hfree).2 text _ hp hcreate).1
  obtain ⟨-, text', hp', hgains⟩ := hwritten path hresult
  exact ⟨hends, by decide +kernel, hname, hfree, hresult, text', hp', hgains.read⟩

end Generator

end RosBindings

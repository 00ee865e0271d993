import RosBindings.Proofs.Refusals
import RosBindings.Proofs.Runs

/-!
# Failures stay with their messages

A run that keeps going passes over most failures, and a message that fails has no effect on
the others. It stops at a definition that is no text, be it in a file or printed by a tool, or
that has a number which is written and not read.

* `ContentFault`: what a run cannot pass over in a definition.
* `SetupFault`: what it cannot pass over besides, in its templates or the spelling of its
  paths.
* `stops_iff`: there is nothing else.
* `keepGoing_isolates`: a run comes to its end unless it meets one of these faults, and then
  does what it would do without the messages that fail.
-/

namespace RosBindings

/-! ## Failures of a certain kind -/

/-- A result that fails in ways of a certain kind only. -/
def FailsBy {α : Type} (P : Failure → Prop) (x : Except Failure α) : Prop :=
  ∀ e, x = .error e → P e

namespace FailsBy

variable {α β : Type} {P : Failure → Prop}

theorem ok (a : α) : FailsBy P (.ok a) := nofun

theorem error {e : Failure} (h : P e) : FailsBy P (.error e : Except Failure α) := by
  intro e' he
  cases he
  exact h

theorem bind {x : Except Failure α} {f : α → Except Failure β} (hx : FailsBy P x)
    (hf : ∀ a, FailsBy P (f a)) : FailsBy P (x >>= f) := by
  cases x with
  | error e => exact error (hx e rfl)
  | ok a => exact hf a

theorem map {x : Except Failure α} (hx : FailsBy P x) (f : α → β) : FailsBy P (x.map f) := by
  cases x with
  | error e => exact error (hx e rfl)
  | ok a => exact ok (f a)

end FailsBy

/-! ## Paths -/

namespace FileTree

variable {tree : FileTree} {last : LastLink} {p : Path}

/-- The system gives all errors but that of a path with a null character. -/
theorem isSystem_of_find {cause : FileCause} (hp : Char.ofNat 0 ∉ p.text)
    (h : tree.find last p = .error cause) : cause.isSystem = true := by
  unfold find findSpelled at h
  rw [if_neg (by simpa using hp)] at h
  split at h
  · cases h; rfl
  split at h
  · cases h; rfl
  · have hleads : tree.Leads (tree.walk last maxLinks (start p.anchor tree.here) p.segments) :=
      walk_leads _ _ _
    rw [h] at hleads
    cases hleads with
    | error hsystem => exact hsystem

theorem isPresent_isSystem {e : FileError} (h : tree.isPresent p = .error e) :
    e.cause.isSystem = true := by
  unfold isPresent at h
  split at h
  · cases h
  · cases h
  · next cause _ =>
    split at h
    · cases h
    · next habsent =>
      cases h
      cases cause with
      | nulCharacter => exact absurd rfl habsent
      | _ => rfl

theorem read_isSystem {e : FileError} (hp : Char.ofNat 0 ∉ p.text)
    (h : tree.read p = .error e) : e.cause.isSystem = true := by
  unfold read at h
  split at h
  · cases h
  · cases h; rfl
  · cases h; rfl
  · cases h; rfl
  · next hf => cases h; exact isSystem_of_find hp hf

theorem create_isSystem {e : FileError} {content : ByteArray} (hp : Char.ofNat 0 ∉ p.text)
    (h : tree.create p content = .error e) : e.cause.isSystem = true := by
  unfold create addNew at h
  split at h
  · cases h; rfl
  · cases h
  · next hf => cases h; exact isSystem_of_find hp hf

end FileTree

/-! ## Sources -/

namespace Source

variable (s : Source) (w : World) (identifier : Text)

/-- What a tool is asked for a definition. -/
def showCommand : Dialect → Text → List Text
  | .ros1, identifier => ["rosmsg", "show", "--raw", identifier]
  | .ros2, identifier => ["ros2", "interface", "show", identifier]

/-- What a tool is asked for a checksum. -/
def sumCommand (identifier : Text) : List Text := ["rosmsg", "md5", identifier]

/-- The answer of a tool is no text. -/
def IsGarbled (tools : ToolTable) (command : List Text) : Prop :=
  ∃ reply, tools.lookup command = some reply ∧ Text.decode? reply.content = none

/-- A definition is no text: its file is none, or what the tool prints for it. -/
def NotText : Prop :=
  (∃ dialect root bytes, s = .folder dialect root ∧
    w.files.read (definitionFile root identifier) = .ok bytes ∧ Text.decode? bytes = none) ∨
  ∃ dialect, s = .tools dialect ∧ IsGarbled w.tools (showCommand dialect identifier)

/-- The checksum that a tool prints is no text. -/
def SumNotText : Prop := s = .tools .ros1 ∧ IsGarbled w.tools (sumCommand identifier)

/-- The path of a definition has a null character. -/
def Misspelled : Prop :=
  ∃ dialect root, s = .folder dialect root ∧ Char.ofNat 0 ∈ (definitionFile root identifier).text

/-- How a source fails to say something about a message, where `noText` is that what it would say
is no text. -/
inductive Refuses (noText : Prop) : Failure → Prop
  | source (error : SourceError) : Refuses noText (.source error)
  | path (error : FileError) (h : s.Misspelled identifier) : Refuses noText (.file error)
  | notText (origin : Text) (h : noText) : Refuses noText (.notText origin)

theorem Refuses.imp {s : Source} {identifier : Text} {noText noText' : Prop} {e : Failure}
    (h : s.Refuses identifier noText e) (himp : noText → noText') :
    s.Refuses identifier noText' e := by
  cases h with
  | source error => exact .source error
  | path error hpath => exact .path error hpath
  | notText origin hnot => exact .notText origin (himp hnot)

theorem refuses_of_read {dialect : Dialect} {root : Path} {e : FileError} {noText : Prop}
    (hs : s = .folder dialect root)
    (h : w.files.read (definitionFile root identifier) = .error e) :
    s.Refuses identifier noText (unreadable (definitionFile root identifier) e) := by
  unfold unreadable
  split
  · exact .source _
  · next hnot =>
    -- the null character is the only error that the system does not give
    refine .path e ⟨dialect, root, hs, ?_⟩
    by_contra hp
    exact hnot (FileTree.read_isSystem hp h)

theorem call_of_garbled {command : List Text} (h : IsGarbled w.tools command) :
    (w.tools.call command).outcome = .error (.notText (Text.join [' '] command)) := by
  obtain ⟨reply, hreply, hdecode⟩ := h
  simp only [ToolTable.call, hreply, hdecode]

theorem call_failsBy {command : List Text} {noText : Prop}
    (h : IsGarbled w.tools command → noText) :
    FailsBy (s.Refuses identifier noText) (w.tools.call command).outcome := by
  cases hreply : w.tools.lookup command with
  | none =>
    simp only [ToolTable.call, hreply]
    exact .error (.source _)
  | some reply =>
    cases hdecode : Text.decode? reply.content with
    | none =>
      have hgarbled : IsGarbled w.tools command := ⟨reply, hreply, hdecode⟩
      rw [call_of_garbled w hgarbled]
      exact .error (.notText _ (h hgarbled))
    | some t =>
      simp only [ToolTable.call, hreply, hdecode]
      cases reply with
      | output content => exact .ok _
      | failure report => exact .error (.source _)

theorem readLines_failsBy :
    FailsBy (s.Refuses identifier (s.NotText w identifier)) (s.readLines w identifier).outcome := by
  cases s with
  | catalogue d definitions checksums =>
    simp only [readLines]
    split
    · exact .ok _
    · exact .error (.source _)
  | folder d root =>
    change FailsBy _ (fileLines w.files (definitionFile root identifier))
    unfold fileLines
    split
    · next hread => exact .error (refuses_of_read _ w identifier rfl hread)
    · next bytes hread =>
      split
      · next hdecode => exact .error (.notText _ (.inl ⟨d, root, bytes, rfl, hread, hdecode⟩))
      · exact .ok _
  | tools d =>
    have hcall : FailsBy ((tools d).Refuses identifier ((tools d).NotText w identifier))
        (w.tools.call (showCommand d identifier)).outcome :=
      call_failsBy _ w identifier fun hgarbled => .inr ⟨d, rfl, hgarbled⟩
    cases d with
    | ros1 => exact hcall
    | ros2 =>
      simp only [readLines, Traced.outcome_bind]
      exact hcall.bind fun _ => .ok _

theorem checksum_failsBy :
    FailsBy (s.Refuses identifier (s.SumNotText w identifier))
      (s.checksum w identifier).outcome := by
  cases s with
  | catalogue d definitions checksums => exact .ok _
  | folder d root =>
    simp only [checksum]
    split
    · refine FailsBy.map ?_ _
      unfold fileDigest
      split
      · next hread => exact .error (refuses_of_read _ w identifier rfl hread)
      · exact .ok _
    · exact .ok _
  | tools d =>
    cases d with
    | ros1 =>
      have hcall : FailsBy
          ((tools .ros1).Refuses identifier ((tools .ros1).SumNotText w identifier))
          (w.tools.call (sumCommand identifier)).outcome :=
        call_failsBy _ w identifier fun hgarbled => ⟨rfl, hgarbled⟩
      simp only [checksum, Traced.outcome_bind]
      exact hcall.bind fun _ => .ok _
    | ros2 => exact .ok _

/-- A definition that is no text is not read, and no run passes over it. -/
theorem readLines_of_notText (h : s.NotText w identifier) :
    ∃ origin, (s.readLines w identifier).outcome = .error (.notText origin) := by
  rcases h with ⟨d, root, bytes, rfl, hread, hdecode⟩ | ⟨d, rfl, hgarbled⟩
  · refine ⟨(definitionFile root identifier).text, ?_⟩
    change fileLines w.files _ = _
    rw [fileLines, hread]
    simp only [hdecode]
  · have hcall := call_of_garbled w hgarbled
    refine ⟨Text.join [' '] (showCommand d identifier), ?_⟩
    cases d with
    | ros1 => exact hcall
    | ros2 =>
      rw [readLines, Traced.outcome_bind, ← showCommand, hcall]
      rfl

theorem checksum_of_sumNotText (h : s.SumNotText w identifier) :
    ∃ origin, (s.checksum w identifier).outcome = .error (.notText origin) := by
  obtain ⟨rfl, hgarbled⟩ := h
  refine ⟨Text.join [' '] (sumCommand identifier), ?_⟩
  rw [checksum, Traced.outcome_bind, ← sumCommand, call_of_garbled w hgarbled]
  rfl

end Source

namespace Generator

variable {g : Generator} {files : FileTree} {identifier runtime : Text} {identifiers : List Text}

/-! ## Faults -/

/-- **A definition that stops a run**: it is no text, the first of its field lines that is
refused has a number which is not read, or none is refused and its checksum is no text. -/
def ContentFault (g : Generator) (runtime : Text) (files : FileTree) (identifier : Text) : Prop :=
  g.source.NotText (g.world files) identifier ∨
    ∃ lines, (g.source.readLines (g.world files) identifier).outcome = .ok lines ∧
      (Definition.HasBadNumber runtime lines ∨
        (∃ d, Definition.parse lines (messageName identifier) runtime = .ok d) ∧
          g.source.SumNotText (g.world files) identifier)

/-- What stops a run besides: a template that fails, or a path that cannot be spelled. -/
def SetupFault (g : Generator) (files : FileTree) (identifier : Text) : Prop :=
  ∃ e, (g.generate files identifier).result = .error e ∧ e.isRecoverable = false ∧
    ((∃ error, e = .template error) ∨ ∃ error, e = .file error)

/-- A message that stops a run: its class is yet to be written and its definition is at
fault, or the setup is. -/
def Stops (g : Generator) (runtime : Text) (files : FileTree) (identifier : Text) : Prop :=
  files.isPresent (g.outputPath identifier) = .ok false ∧ g.ContentFault runtime files identifier ∨
    g.SetupFault files identifier

theorem readUnder_word (runtime : Text) (lines : List Text) (name : Text) :
    readUnder (.word runtime) lines name =
      (Definition.parse lines name runtime).mapError Failure.line := by
  simp only [readUnder]
  cases Definition.parse lines name runtime <;> rfl

/-- **Why there is no draft**: the source refuses the definition or its checksum, the definition
is refused, or the class is not written. -/
theorem draft_error {e : Failure} (hr : g.config.runtime = .word runtime)
    (h : (g.draft files identifier).outcome = .error e) :
    g.source.Refuses identifier (g.ContentFault runtime files identifier) e ∨
      (∃ lines error, (g.source.readLines (g.world files) identifier).outcome = .ok lines ∧
        Definition.parse lines (messageName identifier) runtime = .error error ∧
        e = .line error) ∨
      ∃ d checksum, JavaClass.build (g.style files) d checksum
        { className := Naming.className identifier } = .error e := by
  rw [draft_outcome, hr] at h
  cases hl : (g.source.readLines (g.world files) identifier).outcome with
  | error e' =>
    rw [hl] at h
    cases h
    exact .inl ((g.source.readLines_failsBy _ _ _ hl).imp .inl)
  | ok lines =>
    rw [hl] at h
    simp only [bind, Except.bind, readUnder_word] at h
    cases hd : Definition.parse lines (messageName identifier) runtime with
    | error e' =>
      rw [hd] at h
      cases h
      exact .inr (.inl ⟨lines, e', rfl, hd, rfl⟩)
    | ok d =>
      rw [hd] at h
      simp only [Except.mapError] at h
      cases hs : (g.source.checksum (g.world files) identifier).outcome with
      | error e' =>
        rw [hs] at h
        cases h
        refine .inl ((g.source.checksum_failsBy _ _ _ hs).imp fun hsum => ?_)
        exact .inr ⟨lines, hl, .inr ⟨⟨d, hd⟩, hsum⟩⟩
      | ok checksum =>
        rw [hs] at h
        exact .inr (.inr ⟨d, checksum, h⟩)

theorem draft_unpassable {e : Failure} (hr : g.config.runtime = .word runtime)
    (h : (g.draft files identifier).outcome = .error e) (hu : e.isRecoverable = false) :
    g.ContentFault runtime files identifier ∨ (∃ error, e = .template error) ∨
      ∃ error, e = .file error := by
  rcases draft_error hr h with hrefuses | ⟨lines, error, hl, hd, rfl⟩ | ⟨d, checksum, hb⟩
  · cases hrefuses with
    | source error => cases hu
    | path error => exact .inr (.inr ⟨error, rfl⟩)
    | notText origin hfault => exact .inl hfault
  · exact .inl (.inr ⟨lines, hl, .inl ((Definition.parse_unpassable_iff _).1 ⟨error, hd, hu⟩)⟩)
  · exact .inr (.inl (JavaClass.template_of_build hb))

theorem draft_of_contentFault (hr : g.config.runtime = .word runtime)
    (h : g.ContentFault runtime files identifier) :
    ∃ e, (g.draft files identifier).outcome = .error e ∧ e.isRecoverable = false := by
  rw [draft_outcome, hr]
  rcases h with hnot | ⟨lines, hl, hbad | ⟨⟨d, hd⟩, hsum⟩⟩
  · obtain ⟨origin, hlines⟩ := g.source.readLines_of_notText _ _ hnot
    rw [hlines]
    exact ⟨_, rfl, rfl⟩
  · obtain ⟨e, he, hu⟩ := (Definition.parse_unpassable_iff (messageName identifier)).2 hbad
    rw [hl]
    simp only [bind, Except.bind, readUnder_word, he]
    exact ⟨_, rfl, hu⟩
  · obtain ⟨origin, hnone⟩ := g.source.checksum_of_sumNotText _ _ hsum
    rw [hl]
    simp only [bind, Except.bind, readUnder_word, hd, hnone]
    exact ⟨_, rfl, rfl⟩

/-- **A message stops a run by a fault, and every fault stops a run.** -/
theorem stops_iff (hr : g.config.runtime = .word runtime) :
    (∃ e, (g.generate files identifier).result = .error e ∧ e.isRecoverable = false) ↔
      g.Stops runtime files identifier := by
  constructor
  · rintro ⟨e, he, hu⟩
    have hspec := g.generate_spec files identifier
    rw [he] at hspec
    generalize (g.generate files identifier).files = after at hspec
    cases hspec with
    | unclear error => exact .inr ⟨_, he, hu, .inr ⟨error, rfl⟩⟩
    | refused text error => exact .inr ⟨_, he, hu, .inr ⟨error, rfl⟩⟩
    | undrafted _ hp hd =>
      -- a definition is looked at only if its class is yet to be written
      rcases draft_unpassable hr hd hu with hcontent | hsetup
      · exact .inl ⟨hp, hcontent⟩
      · exact .inr ⟨e, he, hu, hsetup⟩
  · rintro (⟨hp, hcontent⟩ | ⟨e, he, hu, -⟩)
    · obtain ⟨e, hd, hu⟩ := draft_of_contentFault hr hcontent
      exact ⟨e, (Generates.undrafted e hp hd).eq.1, hu⟩
    · exact ⟨e, he, hu⟩

/-- The paths of a message are spelled without the null character. -/
def Spelled (g : Generator) (identifier : Text) : Prop :=
  Char.ofNat 0 ∉ (g.outputPath identifier).text ∧ ¬ g.source.Misspelled identifier

/-- **The packaged templates are no fault**, nor is a path that is spelled as it should be. -/
theorem not_setupFault (ht : g.config.templates = .packaged)
    (hr : g.config.runtime = .word runtime) (hs : g.Spelled identifier) (files : FileTree) :
    ¬ g.SetupFault files identifier := by
  rintro ⟨e, he, hu, hkind⟩
  have hspec := g.generate_spec files identifier
  rw [he] at hspec
  generalize (g.generate files identifier).files = after at hspec
  cases hspec with
  | unclear error hp =>
    -- a null character is taken for a plain no here
    rw [Failure.isRecoverable, FileTree.isPresent_isSystem hp] at hu
    cases hu
  | refused text error _ _ hc =>
    rw [Failure.isRecoverable, FileTree.create_isSystem hs.1 hc] at hu
    cases hu
  | undrafted _ _ hd =>
    rcases draft_error hr hd with hrefuses | ⟨lines, error, -, -, rfl⟩ | ⟨d, checksum, hb⟩
    · cases hrefuses with
      | source error => cases hu
      | path error hpath => exact hs.2 hpath
      | notText origin => rcases hkind with ⟨_, h⟩ | ⟨_, h⟩ <;> cases h
    · rcases hkind with ⟨_, h⟩ | ⟨_, h⟩ <;> cases h
    · have hpackaged : (g.style files).IsPackaged := ⟨files, by rw [style, ht]⟩
      obtain ⟨built, hok⟩ := JavaClass.build_packaged hpackaged d checksum
        (Naming.className identifier)
      rw [hok] at hb
      cases hb

end Generator

/-! ## Runs without the messages that fail -/

/-- The messages of a listing that do not have a mark, in their order. -/
def unmarked (m : Mark) (identifiers : List Text) (marks : List Mark) : List Text :=
  ((identifiers.zip marks).filter (·.2 ≠ m)).map (·.1)

theorem unmarked_map (m : Mark) (identifiers : List Text) (fates : List Fate) :
    unmarked m identifiers (fates.map Fate.mark) =
      ((identifiers.zip fates).filter (·.2.mark ≠ m)).map (·.1) := by
  rw [unmarked, List.zip_map_right, List.filter_map, List.map_map]
  rfl

theorem Report.ofFates_filter (xs : List (Text × Fate)) :
    ofFates (xs.filter (·.2.mark ≠ .failed)) = { ofFates xs with failed := [] } := by
  induction xs with
  | nil => rfl
  | cons x xs ih =>
    obtain ⟨identifier, fate⟩ := x
    cases fate with
    | generated path =>
      exact congrArg (fun r : Report => { r with generated := path :: r.generated }) ih
    | skipped => exact congrArg (fun r : Report => { r with skipped := identifier :: r.skipped }) ih
    | failed e => exact ih

namespace Generator

variable {g : Generator} {files : FileTree} {identifier runtime : Text} {identifiers : List Text}

/-- **A message that fails has no effect on the others.** -/
theorem fates_unfailed (g : Generator) (identifiers : List Text) (files : FileTree) :
    let xs := (identifiers.zip (g.fates identifiers files)).filter (·.2.mark ≠ .failed)
    g.fates (xs.map (·.1)) files = xs.map (·.2) ∧
      g.filesThrough (xs.map (·.1)) files = g.filesThrough identifiers files := by
  induction identifiers generalizing files with
  | nil => exact ⟨rfl, rfl⟩
  | cons identifier rest ih =>
    have hrest := ih (g.generate files identifier).files
    rw [fates, List.zip_cons_cons]
    cases hr : (g.generate files identifier).result with
    | error e =>
      -- the files are as they were, so the others find what they would have found
      rw [List.filter_cons_of_neg (by simp [Fate.ofResult, Fate.mark])]
      rw [filesThrough, List.foldl_cons]
      rw [files_of_error hr] at hrest ⊢
      exact hrest
    | ok path? =>
      rw [List.filter_cons_of_pos (by cases path? <;> simp [Fate.ofResult, Fate.mark])]
      simp only [List.map_cons, fates, hr]
      refine ⟨congrArg _ hrest.1, ?_⟩
      rw [filesThrough, List.foldl_cons, filesThrough, List.foldl_cons]
      exact hrest.2

/-- So a run over the others does the same. -/
theorem generateEach_unfailed (g : Generator) (identifiers : List Text) (files : FileTree) :
    let fates := g.fates identifiers files
    let others := unmarked .failed identifiers (fates.map Fate.mark)
    (g.generateEach others files {}).result =
        .ok { Report.ofFates (identifiers.zip fates) with failed := [] } ∧
      (g.generateEach others files {}).files = g.filesThrough identifiers files := by
  intro fates others
  obtain ⟨hfates, hfiles⟩ := g.fates_unfailed identifiers files
  have hothers : others = _ := unmarked_map .failed identifiers fates
  rw [← hothers] at hfates hfiles
  have hpass : g.PassesAll others files := by
    intro f hf
    rw [hfates] at hf
    obtain ⟨x, hx, rfl⟩ := List.mem_map.1 hf
    have hmark := (List.mem_filter.1 hx).2
    cases hfate : x.2 with
    | generated | skipped => rfl
    | failed e => rw [hfate] at hmark; simp [Fate.mark] at hmark
  obtain ⟨hresult, hthrough⟩ := generateEach_of_passesAll hpass
  refine ⟨?_, hthrough.trans hfiles⟩
  rw [hresult, hfates, hothers, ← Report.ofFates_filter, ← List.zip_of_prod rfl rfl]

theorem passes_iff (hk : g.config.keepGoing = true) (e : Failure) :
    g.passes (.failed e) = e.isRecoverable := by
  rw [passes, hk, Bool.true_and]

/-- **Failures stay with their messages.** A run that keeps going gives a report unless it
meets a message that stops it: one whose definition is no text or has a number that is not
read, or whose checksum is no text, if its setup is not at fault. The report accounts for every
message, and without the messages that fail the run would have done the same. Where the run
fails, it has done what it does over the messages before the one that stops it. -/
theorem keepGoing_isolates {value : Text} (hk : g.config.keepGoing = true)
    (hr : g.config.runtime = .word runtime)
    (hlist : (g.listing files value).outcome = .ok identifiers) :
    let run := g.generateAll files value
    ((∃ report, run.result = .ok report) ↔ ∀ before identifier after,
      identifiers = before ++ identifier :: after →
        ¬ g.Stops runtime (g.filesThrough before files) identifier) ∧
    (∀ report, run.result = .ok report → ∃ marks, g.Accounts identifiers marks report ∧
      let others := g.generateEach (unmarked .failed identifiers marks) files {}
      others.result = .ok { report with failed := [] } ∧ others.files = run.files) ∧
    (∀ e, run.result = .error e → ∃ before identifier after report,
      identifiers = before ++ identifier :: after ∧
      g.Stops runtime (g.filesThrough before files) identifier ∧
      (g.generate (g.filesThrough before files) identifier).result = .error e ∧
      (g.generateEach before files {}).result = .ok report ∧
      (g.generateEach before files {}).files = run.files) ∧
    ∀ tree identifier, g.config.templates = .packaged → g.Spelled identifier →
      ¬ g.SetupFault tree identifier := by
  intro run
  obtain ⟨hresult, hfiles⟩ := generateAll_of_listing hlist
  have hsetup : ∀ tree identifier, g.config.templates = .packaged → g.Spelled identifier →
      ¬ g.SetupFault tree identifier := fun tree _ ht hs => not_setupFault ht hr hs tree
  rcases g.run_cases identifiers files with hall | ⟨before, id, after, e, rfl, hb, he, hs⟩
  · obtain ⟨hreport, hthrough⟩ := generateEach_of_passesAll hall
    have hrun : run.result = _ := hresult.trans hreport
    rw [hrun]
    refine ⟨⟨fun _ before id after hsplit hstops => ?_, fun _ => ⟨_, rfl⟩⟩, fun report h => ?_,
      fun e h => ?_, hsetup⟩
    · -- a message that stops the run would not be passed
      obtain ⟨e, he, hu⟩ := (stops_iff hr).2 hstops
      have hmem : Fate.failed e ∈ g.fates identifiers files := by
        rw [hsplit, fates_append, fates, he]
        simp [Fate.ofResult]
      have hpasses := hall _ hmem
      rw [passes_iff hk, hu] at hpasses
      cases hpasses
    · cases h
      obtain ⟨hothers, hothersFiles⟩ := g.generateEach_unfailed identifiers files
      exact ⟨_, g.accounts_ofFates identifiers files, hothers,
        hothersFiles.trans (hfiles.trans hthrough).symm⟩
    · cases h
  · obtain ⟨herror, hthrough⟩ := generateEach_of_stops hb he hs after {}
    have hrun : run.result = _ := hresult.trans herror
    rw [passes_iff hk] at hs
    have hstops := (stops_iff hr).1 ⟨e, he, hs⟩
    rw [hrun]
    refine ⟨⟨fun hok => ?_, fun h => absurd hstops (h before id after rfl)⟩,
      fun report h => ?_, fun e' h => ?_, hsetup⟩
    · obtain ⟨report, h⟩ := hok
      cases h
    · cases h
    · cases h
      obtain ⟨hok, hbefore⟩ := generateEach_of_passesAll hb
      exact ⟨before, id, after, _, rfl, hstops, he, hok,
        hbefore.trans (hfiles.trans hthrough).symm⟩

/-- A superscript for the size of an array stops a run before its second message. -/
theorem keepGoing_isolates_superscript :
    let g : Generator :=
      { config := { javaPackage := "org.example", outputFolder := ⟨.here, ["out"]⟩,
                    keepGoing := true }
        source := .catalogue .ros1 [("p/A", "int32[²] a"), ("p/B", "int32[2] b")] [] }
    let files : FileTree := ⟨[], [(["out"], .folder)]⟩
    let run := g.generateAll files "p"
    g.config.keepGoing = true ∧ g.config.runtime = .word defaultRuntime ∧
    (g.listing files "p").outcome = .ok ["p/A", "p/B"] ∧
    run.result = .error (.line (.type (.size (.notDecimal "²")))) ∧
    (¬ ∃ report, run.result = .ok report) ∧
    ∃ before identifier after, (["p/A", "p/B"] : List Text) = before ++ identifier :: after ∧
      g.Stops defaultRuntime (g.filesThrough before files) identifier := by
  intro g files run
  have hlist : (g.listing files "p").outcome = .ok ["p/A", "p/B"] := by decide +kernel
  have hresult : run.result = .error (.line (.type (.size (.notDecimal "²")))) := by decide +kernel
  obtain ⟨-, -, hstop, -⟩ := keepGoing_isolates (g := g) rfl rfl hlist
  obtain ⟨before, identifier, after, -, hsplit, hstops, -⟩ := hstop _ hresult
  refine ⟨rfl, rfl, hlist, hresult, ?_, before, identifier, after, hsplit, hstops⟩
  rintro ⟨report, h⟩
  rw [hresult] at h
  cases h

end Generator

end RosBindings

import RosBindings.Proofs.WriteOnce

/-!
# Runs over a list of messages

A run takes its messages one after the other, each in the files that those before it leave.
Whether it keeps going decides which failures it passes over, not what becomes of a message.

* `fates` and `filesThrough`: what becomes of each message, and the files in the end.
* `run_cases`: a run comes to its end, or there is a first message that stops it.
* `Accounts`: a report that has every position of a listing under exactly one of its heads.
* `failFast_of_keepGoing`: a run that stops at the first failure does what a run that keeps
  going does up to there.
-/

namespace RosBindings

/-- What becomes of a message in a run. -/
inductive Fate
  | generated (path : Path)
  | skipped
  | failed (failure : Failure)

/-- The fate that a result stands for. -/
def Fate.ofResult : Except Failure (Option Path) → Fate
  | .ok (some path) => .generated path
  | .ok none => .skipped
  | .error e => .failed e

theorem Fate.result_of_generated {r : Except Failure (Option Path)} {path : Path}
    (h : ofResult r = .generated path) : r = .ok (some path) := by
  rcases r with e | _ | p <;> cases h
  rfl

/-- The heads of a report. -/
inductive Mark
  | generated
  | skipped
  | failed
  deriving DecidableEq

/-- The head that a fate comes under. -/
def Fate.mark : Fate → Mark
  | .generated _ => .generated
  | .skipped => .skipped
  | .failed _ => .failed

/-- The file that was written. -/
def Fate.path? : Fate → Option Path
  | .generated path => some path
  | _ => none

/-- Why there is no file. -/
def Fate.failure? : Fate → Option Failure
  | .failed e => some e
  | _ => none

/-- The messages of a listing that have a mark, in their order. -/
def marked (m : Mark) (identifiers : List Text) (marks : List Mark) : List Text :=
  ((identifiers.zip marks).filter (·.2 = m)).map (·.1)

theorem marked_map (m : Mark) (identifiers : List Text) (fates : List Fate) :
    marked m identifiers (fates.map Fate.mark) =
      ((identifiers.zip fates).filter (·.2.mark = m)).map (·.1) := by
  rw [marked, List.zip_map_right, List.filter_map, List.map_map]
  rfl

namespace Report

/-- Enters the fate of a message. -/
def enter (report : Report) : Text × Fate → Report
  | (_, .generated path) => { report with generated := report.generated ++ [path] }
  | (identifier, .skipped) => { report with skipped := report.skipped ++ [identifier] }
  | (identifier, .failed e) =>
    { report with failed := report.failed ++ [(identifier, e.message)] }

/-- The report on messages and their fates. -/
def ofFates (xs : List (Text × Fate)) : Report where
  generated := xs.filterMap (·.2.path?)
  skipped := (xs.filter (·.2.mark = .skipped)).map (·.1)
  failed := xs.filterMap fun x => x.2.failure?.map fun e => (x.1, e.message)

theorem foldl_enter (xs : List (Text × Fate)) (report : Report) :
    xs.foldl enter report =
      ⟨report.generated ++ (ofFates xs).generated, report.skipped ++ (ofFates xs).skipped,
        report.failed ++ (ofFates xs).failed⟩ := by
  induction xs generalizing report with
  | nil => simp [ofFates]
  | cons x xs ih =>
    obtain ⟨identifier, fate⟩ := x
    rw [List.foldl_cons, ih]
    cases fate <;> simp [enter, ofFates, Fate.path?, Fate.failure?, Fate.mark]

/-- The failures of a report are those of the messages marked so. -/
theorem failed_ofFates (xs : List (Text × Fate)) :
    (ofFates xs).failed.map (·.1) = (xs.filter (·.2.mark = .failed)).map (·.1) := by
  induction xs with
  | nil => rfl
  | cons x xs ih =>
    obtain ⟨identifier, fate⟩ := x
    cases fate with
    | generated | skipped => exact ih
    | failed e => exact congrArg (identifier :: ·) ih

theorem failed_eq_nil {fates : List Fate} (h : ∀ f ∈ fates, f.mark ≠ .failed)
    (identifiers : List Text) : (ofFates (identifiers.zip fates)).failed = [] := by
  refine List.filterMap_eq_nil_iff.2 fun x hx => ?_
  have hmark := h x.2 (List.of_mem_zip hx).2
  cases hf : x.2 with
  | generated | skipped => rfl
  | failed e => rw [hf] at hmark; exact absurd rfl hmark

theorem failed_append (xs ys : List (Text × Fate)) :
    (ofFates (xs ++ ys)).failed = (ofFates xs).failed ++ (ofFates ys).failed :=
  List.filterMap_append

theorem generated_ofFates {f : Text → Path} {xs : List (Text × Fate)}
    (h : ∀ x ∈ xs, ∀ path, x.2 = .generated path → path = f x.1) :
    (ofFates xs).generated = ((xs.filter (·.2.mark = .generated)).map (·.1)).map f := by
  induction xs with
  | nil => rfl
  | cons x xs ih =>
    obtain ⟨identifier, fate⟩ := x
    have hrest := ih fun y hy => h y (List.mem_cons_of_mem _ hy)
    cases fate with
    | generated path =>
      have hpath : path = f identifier := h _ List.mem_cons_self path rfl
      rw [hpath]
      exact congrArg (f identifier :: ·) hrest
    | skipped | failed => exact hrest

end Report

namespace Generator

variable {g : Generator} {files : FileTree} {identifiers : List Text}

/-- What becomes of messages, one after the other. -/
def fates (g : Generator) : List Text → FileTree → List Fate
  | [], _ => []
  | identifier :: rest, files =>
    Fate.ofResult (g.generate files identifier).result ::
      g.fates rest (g.generate files identifier).files

/-- The files after messages, one after the other. -/
def filesThrough (g : Generator) (identifiers : List Text) (files : FileTree) : FileTree :=
  identifiers.foldl (fun files identifier => (g.generate files identifier).files) files

/-- Whether a run goes on behind a message. -/
def passes (g : Generator) : Fate → Bool
  | .failed e => g.config.keepGoing && e.isRecoverable
  | _ => true

/-- Every message of a list is passed. -/
def PassesAll (g : Generator) (identifiers : List Text) (files : FileTree) : Prop :=
  ∀ f ∈ g.fates identifiers files, g.passes f = true

theorem length_fates (g : Generator) (identifiers : List Text) (files : FileTree) :
    (g.fates identifiers files).length = identifiers.length := by
  induction identifiers generalizing files with
  | nil => rfl
  | cons identifier rest ih => rw [fates, List.length_cons, ih, List.length_cons]

theorem fates_append (g : Generator) (before after : List Text) (files : FileTree) :
    g.fates (before ++ after) files =
      g.fates before files ++ g.fates after (g.filesThrough before files) := by
  induction before generalizing files with
  | nil => rfl
  | cons identifier rest ih => rw [List.cons_append, fates, ih]; rfl

/-! ## Steps of a run -/

theorem generateEach_cons_of_passes {identifier : Text}
    (h : g.passes (Fate.ofResult (g.generate files identifier).result) = true) (rest : List Text)
    (report : Report) :
    let next := g.generateEach rest (g.generate files identifier).files
      (report.enter (identifier, Fate.ofResult (g.generate files identifier).result))
    (g.generateEach (identifier :: rest) files report).result = next.result ∧
      (g.generateEach (identifier :: rest) files report).files = next.files := by
  intro next
  rewrite [generateEach]
  simp only [next]
  generalize g.generate files identifier = o at h ⊢
  cases hr : o.result with
  | ok path? => cases path? <;> exact ⟨rfl, rfl⟩
  | error e =>
    rw [hr] at h
    have hpos : (g.config.keepGoing && e.isRecoverable) = true := h
    simp only [hpos, if_true]
    exact ⟨rfl, rfl⟩

theorem generateEach_cons_of_stops {identifier : Text} {e : Failure}
    (hr : (g.generate files identifier).result = .error e) (h : g.passes (.failed e) = false)
    (rest : List Text) (report : Report) :
    (g.generateEach (identifier :: rest) files report).result = .error e ∧
      (g.generateEach (identifier :: rest) files report).files =
        (g.generate files identifier).files := by
  have hneg : (g.config.keepGoing && e.isRecoverable) = false := h
  rewrite [generateEach]
  simp only [hr, hneg]
  exact ⟨rfl, rfl⟩

/-! ## Whole runs -/

theorem generateEach_enters (h : g.PassesAll identifiers files) (report : Report) :
    (g.generateEach identifiers files report).result =
        .ok ((identifiers.zip (g.fates identifiers files)).foldl Report.enter report) ∧
      (g.generateEach identifiers files report).files = g.filesThrough identifiers files := by
  induction identifiers generalizing files report with
  | nil => exact ⟨rfl, rfl⟩
  | cons identifier rest ih =>
    have hfirst := h _ List.mem_cons_self
    have hrest : g.PassesAll rest (g.generate files identifier).files :=
      fun f hf => h f (List.mem_cons_of_mem _ hf)
    obtain ⟨hresult, hfiles⟩ := generateEach_cons_of_passes hfirst rest report
    -- the report is entered on the way, so the induction is for every report
    rw [hresult, hfiles]
    exact ih hrest _

/-- **A run that passes all messages reports the fate of each.** -/
theorem generateEach_of_passesAll (h : g.PassesAll identifiers files) :
    (g.generateEach identifiers files {}).result =
        .ok (.ofFates (identifiers.zip (g.fates identifiers files))) ∧
      (g.generateEach identifiers files {}).files = g.filesThrough identifiers files := by
  obtain ⟨hresult, hfiles⟩ := generateEach_enters h {}
  rw [Report.foldl_enter] at hresult
  exact ⟨hresult, hfiles⟩

/-- **A run ends at the first message that it does not pass.** -/
theorem generateEach_of_stops {before : List Text} {identifier : Text} {e : Failure}
    (hb : g.PassesAll before files)
    (hr : (g.generate (g.filesThrough before files) identifier).result = .error e)
    (hs : g.passes (.failed e) = false) (after : List Text) (report : Report) :
    (g.generateEach (before ++ identifier :: after) files report).result = .error e ∧
      (g.generateEach (before ++ identifier :: after) files report).files =
        g.filesThrough before files := by
  induction before generalizing files report with
  | nil =>
    obtain ⟨hresult, hfiles⟩ := generateEach_cons_of_stops hr hs after report
    exact ⟨hresult, hfiles.trans (files_of_error hr)⟩
  | cons first before ih =>
    have hfirst := hb _ List.mem_cons_self
    have hrest : g.PassesAll before (g.generate files first).files :=
      fun f hf => hb f (List.mem_cons_of_mem _ hf)
    obtain ⟨hresult, hfiles⟩ :=
      generateEach_cons_of_passes hfirst (before ++ identifier :: after) report
    rw [List.cons_append, hresult, hfiles]
    exact ih hrest hr _

/-- **A run passes all messages, or there is a first one that it does not pass.** -/
theorem run_cases (g : Generator) (identifiers : List Text) (files : FileTree) :
    g.PassesAll identifiers files ∨ ∃ before identifier after e,
      identifiers = before ++ identifier :: after ∧ g.PassesAll before files ∧
      (g.generate (g.filesThrough before files) identifier).result = .error e ∧
      g.passes (.failed e) = false := by
  induction identifiers generalizing files with
  | nil => exact .inl (by simp [PassesAll, fates])
  | cons first rest ih =>
    cases hp : g.passes (Fate.ofResult (g.generate files first).result) with
    | false =>
      right
      cases hr : (g.generate files first).result with
      | ok path? => rw [hr] at hp; cases path? <;> cases hp
      | error e =>
        rw [hr] at hp
        exact ⟨[], first, rest, e, rfl, by simp [PassesAll, fates], hr, hp⟩
    | true =>
      have hcons : ∀ {ids}, g.PassesAll ids (g.generate files first).files →
          g.PassesAll (first :: ids) files := by
        intro ids h f hf
        rcases List.mem_cons.1 hf with rfl | hf
        · exact hp
        · exact h f hf
      rcases ih (g.generate files first).files with h | ⟨before, id, after, e, rfl, hb, hr, hs⟩
      · exact .inl (hcons h)
      · exact .inr ⟨first :: before, id, after, e, rfl, hcons hb, hr, hs⟩

/-- A report comes of a run that passes all messages only. -/
theorem passesAll_of_ok {report : Report}
    (h : (g.generateEach identifiers files {}).result = .ok report) :
    g.PassesAll identifiers files ∧
      report = .ofFates (identifiers.zip (g.fates identifiers files)) := by
  rcases g.run_cases identifiers files with hall | ⟨before, id, after, e, rfl, hb, hr, hs⟩
  · rw [(generateEach_of_passesAll hall).1, Except.ok.injEq] at h
    exact ⟨hall, h.symm⟩
  · rw [(generateEach_of_stops hb hr hs after {}).1] at h
    cases h

theorem generateAll_of_listing {value : Text}
    (h : (g.listing files value).outcome = .ok identifiers) :
    (g.generateAll files value).result = (g.generateEach identifiers files {}).result ∧
      (g.generateAll files value).files = (g.generateEach identifiers files {}).files := by
  unfold generateAll
  simp only [h]
  exact ⟨rfl, rfl⟩

theorem generateAll_of_error {value : Text} {e : Failure}
    (h : (g.listing files value).outcome = .error e) :
    (g.generateAll files value).result = .error e ∧ (g.generateAll files value).files = files := by
  unfold generateAll
  simp only [h, and_self]

/-! ## Reports -/

/-- Every position of a listing has one mark, and under each head of the report stand the
messages with its mark, in their order. -/
structure Accounts (g : Generator) (identifiers : List Text) (marks : List Mark)
    (report : Report) : Prop where
  length : marks.length = identifiers.length
  generated : report.generated = (marked .generated identifiers marks).map g.outputPath
  skipped : report.skipped = marked .skipped identifiers marks
  failed : report.failed.map (·.1) = marked .failed identifiers marks

theorem path_of_generated {identifier : Text} {path : Path}
    (h : (g.generate files identifier).result = .ok (some path)) :
    path = g.outputPath identifier := by
  have hspec := g.generate_spec files identifier
  rw [h] at hspec
  generalize (g.generate files identifier).files = after at hspec
  cases hspec
  rfl

theorem fates_generated (g : Generator) (identifiers : List Text) (files : FileTree) :
    ∀ x ∈ identifiers.zip (g.fates identifiers files), ∀ path, x.2 = .generated path →
      path = g.outputPath x.1 := by
  induction identifiers generalizing files with
  | nil => intro x hx; cases hx
  | cons identifier rest ih =>
    intro x hx path hpath
    rw [fates, List.zip_cons_cons] at hx
    rcases List.mem_cons.1 hx with rfl | hx
    · exact path_of_generated (Fate.result_of_generated hpath)
    · exact ih _ x hx path hpath

/-- **The report on a run accounts for every message of its listing.** -/
theorem accounts_ofFates (g : Generator) (identifiers : List Text) (files : FileTree) :
    g.Accounts identifiers ((g.fates identifiers files).map Fate.mark)
      (.ofFates (identifiers.zip (g.fates identifiers files))) where
  length := by rw [List.length_map, length_fates]
  generated := by
    rw [marked_map]; exact Report.generated_ofFates (g.fates_generated identifiers files)
  skipped := by rw [marked_map]; rfl
  failed := by rw [marked_map]; exact Report.failed_ofFates _

/-! ## Keeping going or not -/

/-- A generator that is told whether to keep going. -/
def keepingGoing (g : Generator) (b : Bool) : Generator :=
  { g with config := { g.config with keepGoing := b } }

variable {b : Bool}

@[simp] theorem generate_keepingGoing (files : FileTree) (identifier : Text) :
    (g.keepingGoing b).generate files identifier = g.generate files identifier := by
  unfold generate
  rfl

@[simp] theorem fates_keepingGoing (identifiers : List Text) (files : FileTree) :
    (g.keepingGoing b).fates identifiers files = g.fates identifiers files := by
  induction identifiers generalizing files with
  | nil => rfl
  | cons identifier rest ih => simp only [fates, generate_keepingGoing, ih]

@[simp] theorem filesThrough_keepingGoing (identifiers : List Text) (files : FileTree) :
    (g.keepingGoing b).filesThrough identifiers files = g.filesThrough identifiers files := by
  simp only [filesThrough, generate_keepingGoing]

/-- A run that stops at failures passes what did not fail. -/
theorem passes_failFast (f : Fate) :
    (g.keepingGoing false).passes f = true ↔ f.mark ≠ .failed := by
  cases f <;> simp [passes, keepingGoing, Fate.mark]

theorem marks_of_failFast (h : (g.keepingGoing false).PassesAll identifiers files) :
    ∀ f ∈ g.fates identifiers files, f.mark ≠ .failed := by
  intro f hf
  rw [← fates_keepingGoing (b := false)] at hf
  exact (passes_failFast f).1 (h f hf)

/-- The first message that fails is the first failure of the report. -/
theorem first_failed {before : List Text} {identifier : Text} {e : Failure}
    (hb : ∀ f ∈ g.fates before files, f.mark ≠ .failed)
    (hr : (g.generate (g.filesThrough before files) identifier).result = .error e)
    (after : List Text) :
    let fates := g.fates (before ++ identifier :: after) files
    (∃ later, (Report.ofFates ((before ++ identifier :: after).zip fates)).failed =
      (identifier, e.message) :: later) ∧
      (fates.map Fate.mark).idxOf .failed = before.length := by
  intro fates
  have hfates : fates = g.fates before files ++ .failed e ::
      g.fates after (g.generate (g.filesThrough before files) identifier).files := by
    rw [show fates = _ from g.fates_append before (identifier :: after) files, Generator.fates, hr]
    rfl
  have hlen : before.length = (g.fates before files).length := (g.length_fates before files).symm
  constructor
  · rw [hfates, List.zip_append hlen, Report.failed_append, Report.failed_eq_nil hb]
    exact ⟨_, rfl⟩
  · have hnot : Mark.failed ∉ (g.fates before files).map Fate.mark := by
      intro hm
      obtain ⟨f, hf, hmark⟩ := List.mem_map.1 hm
      exact hb f hf hmark
    rw [hfates, List.map_append, List.idxOf_append_of_notMem hnot, List.length_map, ← hlen,
      List.map_cons]
    simp [Fate.mark]

/-- **Stopping at the first failure and keeping going agree up to there.** Where a run that
keeps going gives a report, its listing splits into the messages generated, skipped and
failed. If none has failed, a run that stops at failures gives the same report and the same
files. Else it fails with what the report says about the first message that failed, and
leaves the files as a run that keeps going over the messages before it. -/
theorem failFast_of_keepGoing {value : Text} {report : Report}
    (h : ((g.keepingGoing true).generateAll files value).result = .ok report) :
    let failFast := (g.keepingGoing false).generateAll files value
    ∃ identifiers marks, (g.listing files value).outcome = .ok identifiers ∧
      g.Accounts identifiers marks report ∧
      (report.failed = [] → failFast.result = .ok report ∧
        failFast.files = ((g.keepingGoing true).generateAll files value).files) ∧
      ∀ first message rest, report.failed = (first, message) :: rest →
        ∃ before after e, identifiers = before ++ first :: after ∧
          marks.idxOf .failed = before.length ∧
          failFast.result = .error e ∧ e.message = message ∧
          (∃ report', ((g.keepingGoing true).generateEach before files {}).result = .ok report') ∧
          failFast.files = ((g.keepingGoing true).generateEach before files {}).files := by
  intro failFast
  cases hlist : (g.listing files value).outcome with
  | error e =>
    rw [(generateAll_of_error (g := g.keepingGoing true) hlist).1] at h
    cases h
  | ok identifiers =>
    obtain ⟨hkeep, hkeepFiles⟩ := generateAll_of_listing (g := g.keepingGoing true) hlist
    obtain ⟨hfast, hfastFiles⟩ := generateAll_of_listing (g := g.keepingGoing false) hlist
    rw [hkeep] at h
    obtain ⟨hpass, hreport⟩ := passesAll_of_ok h
    rw [fates_keepingGoing] at hreport
    subst hreport
    refine ⟨identifiers, (g.fates identifiers files).map Fate.mark, rfl,
      g.accounts_ofFates identifiers files, ?_⟩
    rcases (g.keepingGoing false).run_cases identifiers files with
      hall | ⟨before, id, after, e, rfl, hb, hr, hs⟩
    · -- nothing fails, and both runs are the same
      obtain ⟨hresult, hfiles⟩ := generateEach_of_passesAll hall
      rw [fates_keepingGoing] at hresult
      have hnone := Report.failed_eq_nil (marks_of_failFast hall) identifiers
      refine ⟨fun _ => ⟨hfast.trans hresult, ?_⟩, fun first message rest hf => ?_⟩
      · rw [hfastFiles, hfiles, hkeepFiles, (generateEach_of_passesAll hpass).2,
          filesThrough_keepingGoing, filesThrough_keepingGoing]
      · rw [hnone] at hf; cases hf
    · -- there is a first failure, where one of the runs stops
      obtain ⟨hresult, hfiles⟩ := generateEach_of_stops hb hr hs after {}
      rw [filesThrough_keepingGoing, generate_keepingGoing] at hr
      obtain ⟨⟨later, hlater⟩, hindex⟩ := first_failed (marks_of_failFast hb) hr after
      rw [hlater]
      refine ⟨fun hf => absurd hf (List.cons_ne_nil _ _), fun first message rest hf => ?_⟩
      cases hf
      have hbefore : (g.keepingGoing true).PassesAll before files := by
        intro f hf
        refine hpass f ?_
        rw [fates_append]
        exact List.mem_append_left _ hf
      obtain ⟨hok, hthrough⟩ := generateEach_of_passesAll hbefore
      refine ⟨before, after, e, rfl, hindex, hfast.trans hresult, rfl, ⟨_, hok⟩, ?_⟩
      rw [hfastFiles, hfiles, hthrough, filesThrough_keepingGoing, filesThrough_keepingGoing]

/-- A message whose file is there, one that fails, and one that is generated all the same. -/
theorem failFast_of_keepGoing_three :
    let g : Generator :=
      { config := { javaPackage := "org.example", outputFolder := ⟨.here, ["out"]⟩ }
        source := .catalogue .ros1 [("p/A", "int8 a"), ("p/B", "int8"), ("p/C", "")] [] }
    let files : FileTree :=
      ⟨[], [(["out"], .folder), (["out", "AMessage.java"], .file .empty)]⟩
    let failFast := (g.keepingGoing false).generateAll files "p"
    ((g.keepingGoing true).generateAll files "p").result =
      .ok ⟨[⟨.here, ["out", "CMessage.java"]⟩], ["p/A"],
        [("p/B", "Cannot parse field declaration 'int8'")]⟩ ∧
    ∃ e, failFast.result = .error e ∧ e.message = "Cannot parse field declaration 'int8'" ∧
      failFast.files = ((g.keepingGoing true).generateEach ["p/A"] files {}).files := by
  intro g files failFast
  have hreport : ((g.keepingGoing true).generateAll files "p").result =
      .ok ⟨[⟨.here, ["out", "CMessage.java"]⟩], ["p/A"],
        [("p/B", "Cannot parse field declaration 'int8'")]⟩ := by decide +kernel
  have hlist : (g.listing files "p").outcome = .ok ["p/A", "p/B", "p/C"] := by decide +kernel
  obtain ⟨identifiers, marks, hids, -, -, hfirst⟩ := failFast_of_keepGoing hreport
  obtain ⟨before, after, e, hsplit, -, hresult, hmessage, -, hfiles⟩ := hfirst _ _ _ rfl
  rw [hlist, Except.ok.injEq] at hids
  rw [← hids] at hsplit
  have hbefore : before = (["p/A"] : List Text) := by
    rcases before with _ | ⟨a, _ | ⟨b, _ | ⟨c, before⟩⟩⟩ <;> simp at hsplit
    rw [← hsplit.1]
    rfl
  rw [hbefore] at hfiles
  exact ⟨hreport, e, hresult, hmessage, hfiles⟩

end Generator

end RosBindings

import RosBindings.Proofs.Runs

/-!
# Running again

Where there are no symbolic links, a second run right behind the first has nothing left to
do. The files of the first run are in nobody's way: they have an extension of their own, so
sources and templates are read as before.

* `draft_grows`: what is drafted for a message does not depend on classes written since.
* `generate_again`: a message that was generated or skipped is skipped, and one that failed
  is skipped or fails again.
* `generateAll_again`: the second run leaves the files as they are and comes to the same
  end.
-/

namespace RosBindings

open FileTree (Grows EndsIn IsExtension LinkFree)

/-! ## Extensions -/

theorem isExtension_java : IsExtension ".java" := ⟨by decide, by decide⟩

theorem isExtension_msg : IsExtension Naming.extension := ⟨by decide, by decide⟩

theorem isExtension_j2 : IsExtension Fragment.extension := ⟨by decide, by decide⟩

/-- A location of a written class. -/
def IsClassFile (l : Location) : Prop := EndsIn ".java" l

theorem not_isClassFile {extension stem : Text} {l : Location}
    (he : extension.getLast? = some 'g' ∨ extension.getLast? = some '2')
    (h : l.getLast? = some (stem ++ extension)) : ¬ IsClassFile l := by
  rintro ⟨stem', h'⟩
  rw [h, Option.some.injEq] at h'
  have hlast := congrArg List.getLast? h'
  have hjava : (stem' ++ (".java" : Text)).getLast? = some 'a' := by simp
  rw [hjava] at hlast
  rcases he with he | he <;> rw [List.getLast?_append, he] at hlast <;> simp at hlast

/-! ## Failures that a run treats alike -/

/-- The same result, or two failures both or none of which a run passes over. -/
def Alike {α : Type} (r r' : Except Failure α) : Prop :=
  r' = r ∨ ∃ e e', r = .error e ∧ r' = .error e' ∧ e'.isRecoverable = e.isRecoverable

namespace Alike

variable {α β : Type} {x x' : Except Failure α}

theorem bind {f f' : α → Except Failure β} (hx : Alike x x') (hf : ∀ a, Alike (f a) (f' a)) :
    Alike (x >>= f) (x' >>= f') := by
  rcases hx with rfl | ⟨e, e', rfl, rfl, he⟩
  · cases x' with
    | error e => exact .inl rfl
    | ok a => exact hf a
  · exact .inr ⟨e, e', rfl, rfl, he⟩

theorem map {f : α → β} (hx : Alike x x') : Alike (x.map f) (x'.map f) := by
  rcases hx with rfl | ⟨e, e', rfl, rfl, he⟩
  · exact .inl rfl
  · exact .inr ⟨e, e', rfl, rfl, he⟩

end Alike

section Grown

variable {before after : FileTree} (hl : before.LinkFree) (h : Grows IsClassFile before after)

include hl h

/-! ## Sources -/

theorem read_definition (root : Path) (identifier : Text) :
    let file := Source.definitionFile root identifier
    after.read file = before.read file ∨ before.read file = .error ⟨.notFound, file.text⟩ ∧
      after.read file = .error ⟨.notFolder, file.text⟩ := by
  intro file
  obtain ⟨init, stem, hsegments⟩ := FileTree.join_segments isExtension_msg root identifier
  refine FileTree.read_grows hl h hsegments (isExtension_msg.namesEntry stem) ?_
  intro l hlast
  exact not_isClassFile (.inl rfl) hlast

theorem fileLines_grows (root : Path) (identifier : Text) :
    Alike (Source.fileLines before (Source.definitionFile root identifier))
      (Source.fileLines after (Source.definitionFile root identifier)) := by
  unfold Source.fileLines
  rcases read_definition hl h root identifier with hsame | ⟨hbefore, hafter⟩
  · rw [hsame]; exact .inl rfl
  · rw [hbefore, hafter]; exact .inr ⟨_, _, rfl, rfl, rfl⟩

theorem fileDigest_grows (root : Path) (identifier : Text) :
    Alike (Source.fileDigest before (Source.definitionFile root identifier))
      (Source.fileDigest after (Source.definitionFile root identifier)) := by
  unfold Source.fileDigest
  rcases read_definition hl h root identifier with hsame | ⟨hbefore, hafter⟩
  · rw [hsame]; exact .inl rfl
  · rw [hbefore, hafter]; exact .inr ⟨_, _, rfl, rfl, rfl⟩

theorem readLines_grows (s : Source) (tools : ToolTable) (identifier : Text) :
    Alike (s.readLines ⟨before, tools⟩ identifier).outcome
      (s.readLines ⟨after, tools⟩ identifier).outcome := by
  cases s with
  | catalogue => exact .inl rfl
  | folder d root => exact fileLines_grows hl h root identifier
  | tools d => cases d <;> exact .inl rfl

theorem checksum_grows (s : Source) (tools : ToolTable) (identifier : Text) :
    Alike (s.checksum ⟨before, tools⟩ identifier).outcome
      (s.checksum ⟨after, tools⟩ identifier).outcome := by
  cases s with
  | catalogue => exact .inl rfl
  | folder d root =>
    have hfile := fileDigest_grows hl h root identifier
    simp only [Source.checksum]
    by_cases hd : d.hasChecksum = true
    · rw [if_pos hd, if_pos hd]; exact hfile.map
    · rw [if_neg hd, if_neg hd]; exact .inl rfl
  | tools d => cases d <;> exact .inl rfl

/-! ## Templates -/

theorem source_grows (store : TemplateStore) (name : Text) :
    store.source after name = store.source before name := by
  cases store with
  | packaged => rfl
  | folder path =>
    obtain ⟨init, stem, hsegments⟩ := FileTree.segmentsOf_append isExtension_j2 name
    have hcontent : TemplateStore.folderContent? after path (name ++ Fragment.extension) =
        TemplateStore.folderContent? before path (name ++ Fragment.extension) := by
      unfold TemplateStore.folderContent? TemplateStore.segments?
      rw [hsegments]
      split
      · rfl
      · next segments hs =>
        have hsome : segments = init ++ [stem ++ Fragment.extension] := by
          simp only at hs
          split at hs
          · cases hs
          · cases hs; rfl
        have hpath : (⟨path.anchor, path.segments ++ segments⟩ : Path).segments =
            (path.segments ++ init) ++ [stem ++ Fragment.extension] := by simp [hsome]
        rcases FileTree.read_grows hl h hpath (isExtension_j2.namesEntry stem)
            (fun l hlast => not_isClassFile (.inr rfl) hlast) with hsame | ⟨hbefore, hafter⟩
        · rw [hsame]
        · rw [hbefore, hafter]; rfl
    unfold TemplateStore.source
    simp only [hcontent]

theorem style_grows (g : Generator) : g.style after = g.style before := by
  have hfragments : g.config.templates.fragments after = g.config.templates.fragments before := by
    funext f context
    unfold TemplateStore.fragments TemplateStore.render
    rw [source_grows hl h]
  unfold Generator.style
  rw [hfragments]

/-- **What is drafted for a message does not depend on the classes written since.** -/
theorem draft_grows (g : Generator) (identifier : Text) :
    Alike (g.draft before identifier).outcome (g.draft after identifier).outcome := by
  rw [Generator.draft_outcome, Generator.draft_outcome, style_grows hl h g]
  refine (readLines_grows hl h g.source g.tools identifier).bind fun lines => ?_
  refine Alike.bind (.inl rfl) fun d => ?_
  refine (checksum_grows hl h g.source g.tools identifier).bind fun checksum => .inl rfl

end Grown

/-! ## Listings -/

section Listing

variable {before after : FileTree} (h : Grows IsClassFile before after)

include h

theorem isPackage_grows (s : Source) (tools : ToolTable) (value : Text) :
    s.isPackage ⟨after, tools⟩ value = s.isPackage ⟨before, tools⟩ value := by
  cases s with
  | catalogue => rfl
  | folder d root => simp only [Source.isPackage, FileTree.isFolder_grows h]
  | tools d => cases d <;> rfl

theorem list_grows (s : Source) (tools : ToolTable) (package : Text) :
    s.list ⟨after, tools⟩ package = s.list ⟨before, tools⟩ package := by
  have hpackage := isPackage_grows h s tools package
  cases s with
  | catalogue => rfl
  | folder d root =>
    have hnames : ∀ (l : Location) name, IsClassFile l → l.getLast? = some name →
        Naming.extension.isSuffixOf name = false := by
      intro l name hl hlast
      rw [Bool.eq_false_iff]
      intro hsuffix
      obtain ⟨stem, rfl⟩ := List.isSuffixOf_iff_suffix.1 hsuffix
      exact not_isClassFile (.inl rfl) hlast hl
    simp only [Source.list, hpackage, FileTree.names_grows h hnames]
  | tools d => cases d <;> simp only [Source.list, hpackage]

/-- **The messages that a value stands for stay the same.** -/
theorem Generator.listing_grows (g : Generator) (value : Text) :
    g.listing after value = g.listing before value := by
  unfold listing world
  rw [isPackage_grows h, list_grows h]

end Listing

/-! ## A second run -/

/-- What may become of a message again: it is skipped, unless it failed and fails alike. -/
inductive Again : Fate → Fate → Prop
  | skipped (f : Fate) : Again f .skipped
  | failed {e e' : Failure} (h : e'.isRecoverable = e.isRecoverable) :
    Again (.failed e) (.failed e')

namespace Generator

variable {g : Generator} {files final : FileTree} {identifier : Text} {identifiers : List Text}

theorem isClassFile_of_find {location : Location} (hl : files.LinkFree)
    (hf : files.find .kept (g.outputPath identifier) = .ok (.free location)) :
    IsClassFile location := by
  obtain ⟨init, stem, hsegments⟩ := FileTree.join_segments isExtension_java
    g.config.outputFolder (Naming.className identifier)
  exact ⟨stem, FileTree.find_getLast? hl hsegments (isExtension_java.namesEntry stem) hf⟩

theorem generate_grows (hl : files.LinkFree) (identifier : Text) :
    Grows IsClassFile files (g.generate files identifier).files :=
  (g.generate_spec files identifier).grows fun _ hf => isClassFile_of_find hl hf

theorem filesThrough_grows (hl : files.LinkFree) (identifiers : List Text) :
    Grows IsClassFile files (g.filesThrough identifiers files) := by
  induction identifiers generalizing files with
  | nil => exact .refl _ files
  | cons identifier rest ih =>
    have hstep := g.generate_grows hl identifier
    exact hstep.trans (ih (hl.grows hstep))

/-- A class that was written is there. -/
theorem isPresent_of_written {location : Location} {content : ByteArray} {p : Path}
    (hf : files.find .kept p = .ok (.free location)) :
    (files.add location (.file content)).isPresent p = .ok true := by
  obtain ⟨location', -, -, -, -, hkept⟩ := (FileTree.gains_add hf content).file
  rw [FileTree.isPresent, FileTree.find_followed rfl hkept]

/-- **A message again**, after classes were written since: nothing is written for it. -/
theorem generate_again (hl : files.LinkFree)
    (h : Grows IsClassFile (g.generate files identifier).files final) :
    (g.generate final identifier).files = final ∧
      Again (Fate.ofResult (g.generate files identifier).result)
        (Fate.ofResult (g.generate final identifier).result) := by
  have hspec := g.generate_spec files identifier
  generalize (g.generate files identifier).result = result,
    (g.generate files identifier).files = next at hspec h ⊢
  by_cases hthere : final.isPresent (g.outputPath identifier) = .ok true
  · obtain ⟨hresult, hfiles⟩ := (Generates.present hthere).eq
    rw [hresult]
    exact ⟨hfiles, .skipped _⟩
  have hsame : ∀ {before}, Grows IsClassFile before final →
      final.isPresent (g.outputPath identifier) = before.isPresent (g.outputPath identifier) :=
    fun hgrows => (FileTree.isPresent_grows hgrows _).resolve_right fun hnew => hthere hnew.2
  -- nothing is there, so it was neither there before nor written since
  cases hspec with
  | present hp => exact absurd (FileTree.isPresent_true h hp) hthere
  | written text location hp hd hf =>
    exact absurd (FileTree.isPresent_true h (isPresent_of_written hf)) hthere
  | unclear e hp =>
    obtain ⟨hresult, hfiles⟩ := (Generates.unclear e ((hsame h).trans hp)).eq
    rw [hresult]
    exact ⟨hfiles, .failed rfl⟩
  | undrafted e hp hd =>
    obtain ⟨e', hd', he⟩ : ∃ e', (g.draft final identifier).outcome = .error e' ∧
        e'.isRecoverable = e.isRecoverable := by
      rcases draft_grows hl h g identifier with hdraft | ⟨e₁, e₂, h₁, h₂, he⟩
      · exact ⟨e, hdraft.trans hd, rfl⟩
      · rw [hd] at h₁; cases h₁; exact ⟨e₂, h₂, he⟩
    obtain ⟨hresult, hfiles⟩ := (Generates.undrafted e' ((hsame h).trans hp) hd').eq
    rw [hresult]
    exact ⟨hfiles, .failed he⟩
  | refused text e hp hd hc =>
    obtain ⟨b, hd⟩ := hd
    have hd' : (g.draft final identifier).outcome = .ok (b, text) := by
      rcases draft_grows hl h g identifier with hdraft | ⟨e₁, e₂, h₁, -, -⟩
      · exact hdraft.trans hd
      · rw [hd] at h₁; cases h₁
    obtain ⟨e', hc', he⟩ := FileTree.create_grows h hc
    obtain ⟨hresult, hfiles⟩ :=
      (Generates.refused text e' ((hsame h).trans hp) ⟨b, hd'⟩ hc').eq
    rw [hresult]
    exact ⟨hfiles, .failed he⟩

/-- **A run again**, after all classes of the first: no file is written. -/
theorem fates_again (hl : files.LinkFree)
    (h : Grows IsClassFile (g.filesThrough identifiers files) final) :
    List.Forall₂ Again (g.fates identifiers files) (g.fates identifiers final) ∧
      g.filesThrough identifiers final = final := by
  induction identifiers generalizing files with
  | nil => exact ⟨.nil, rfl⟩
  | cons identifier rest ih =>
    -- the first message finds the files of the whole first run, which grew out of its own
    have hl' := hl.grows (g.generate_grows hl identifier)
    obtain ⟨hfiles, hagain⟩ := generate_again hl ((filesThrough_grows hl' rest).trans h)
    obtain ⟨hfates, hthrough⟩ := ih hl' h
    constructor
    · rw [fates, fates, hfiles]; exact .cons hagain hfates
    · rw [filesThrough, List.foldl_cons, hfiles]; exact hthrough

theorem exists_again {fs fs' : List Fate} (h : List.Forall₂ Again fs fs') {f' : Fate}
    (hf : f' ∈ fs') : ∃ f ∈ fs, Again f f' := by
  obtain ⟨i, hi', rfl⟩ := List.getElem_of_mem hf
  have hi : i < fs.length := by rw [h.length_eq]; exact hi'
  exact ⟨fs[i], List.getElem_mem hi, h.get hi hi'⟩

theorem passes_again {f f' : Fate} (h : Again f f') (hp : g.passes f = true) :
    g.passes f' = true := by
  cases h with
  | skipped => rfl
  | failed he =>
    simp only [passes] at hp ⊢
    rw [he]; exact hp

theorem generated_again {fs fs' : List Fate} (h : List.Forall₂ Again fs fs')
    (identifiers : List Text) : (Report.ofFates (identifiers.zip fs')).generated = [] := by
  refine List.filterMap_eq_nil_iff.2 fun x hx => ?_
  obtain ⟨f, -, hagain⟩ := exists_again h (List.of_mem_zip hx).2
  generalize x.2 = f' at hagain
  cases hagain <;> rfl

theorem failed_again {fs fs' : List Fate} (h : List.Forall₂ Again fs fs')
    (identifiers : List Text) :
    ((Report.ofFates (identifiers.zip fs')).failed.map (·.1)).Sublist
      ((Report.ofFates (identifiers.zip fs)).failed.map (·.1)) := by
  rw [Report.failed_ofFates, Report.failed_ofFates]
  induction h generalizing identifiers with
  | nil => exact .refl _
  | cons hagain _ ih =>
    rcases identifiers with _ | ⟨identifier, identifiers⟩
    · exact .refl _
    · cases hagain with
      | skipped f =>
        rw [List.zip_cons_cons, List.zip_cons_cons, List.filter_cons_of_neg (by simp [Fate.mark])]
        exact (ih identifiers).trans ((List.sublist_cons_self _ _).filter _ |>.map _)
      | failed he =>
        rw [List.zip_cons_cons, List.zip_cons_cons, List.filter_cons_of_pos (by simp [Fate.mark]),
          List.filter_cons_of_pos (by simp [Fate.mark])]
        exact (ih identifiers).cons_cons _

/-- Messages that are all passed are all passed again, and the listing is the same. -/
theorem passesAll_again (hl : files.LinkFree) (h : g.PassesAll identifiers files) :
    let final := g.filesThrough identifiers files
    (∀ value, g.listing final value = g.listing files value) ∧
      List.Forall₂ Again (g.fates identifiers files) (g.fates identifiers final) ∧
      g.PassesAll identifiers final ∧ g.filesThrough identifiers final = final := by
  intro final
  obtain ⟨hagain, hstays⟩ := fates_again hl (Grows.refl IsClassFile final)
  refine ⟨listing_grows (filesThrough_grows hl identifiers) g, hagain, fun f' hf' => ?_, hstays⟩
  obtain ⟨f, hf, hff'⟩ := exists_again hagain hf'
  exact passes_again hff' (h f hf)

/-- **Running again changes nothing.** Without symbolic links, a second run right behind the
first leaves the files as they are. Where the first gives a report, so does the second, on
the same messages: none is generated, and none fails that did not fail before. Where the
first fails, the second fails in the same way. -/
theorem generateAll_again (g : Generator) (value : Text) (hl : files.LinkFree) :
    let first := g.generateAll files value
    let second := g.generateAll first.files value
    second.files = first.files ∧
    (∀ report, first.result = .ok report → ∃ report' identifiers marks marks',
      second.result = .ok report' ∧ report'.generated = [] ∧
      (g.listing files value).outcome = .ok identifiers ∧
      (g.listing first.files value).outcome = .ok identifiers ∧
      g.Accounts identifiers marks report ∧ g.Accounts identifiers marks' report' ∧
      (report'.failed.map (·.1)).Sublist (report.failed.map (·.1))) ∧
    ∀ e, first.result = .error e → second.result = .error e := by
  intro first
  cases hlist : (g.listing files value).outcome with
  | error e =>
    have hfirst : first.result = .error e ∧ first.files = files := generateAll_of_error hlist
    intro second
    have hsame : second = first := congrArg (g.generateAll · value) hfirst.2
    rw [hsame]
    refine ⟨rfl, fun report h => ?_, fun _ h => h⟩
    rw [hfirst.1] at h; cases h
  | ok identifiers =>
    obtain ⟨hresult, hfiles⟩ := generateAll_of_listing hlist
    rcases g.run_cases identifiers files with hall | ⟨before, id, after, e, rfl, hb, hr, hs⟩
    · -- every message is passed, and passed again
      obtain ⟨hreport, hthrough⟩ := generateEach_of_passesAll hall
      obtain ⟨hlisting, hagain, hall', hstays⟩ := passesAll_again hl hall
      obtain ⟨hreport', hthrough'⟩ := generateEach_of_passesAll hall'
      rw [show first.result = _ from hresult.trans hreport,
        show first.files = _ from hfiles.trans hthrough]
      have hlist' := (congrArg Traced.outcome (hlisting value)).trans hlist
      obtain ⟨hresult', hfiles'⟩ := generateAll_of_listing hlist'
      refine ⟨hfiles'.trans (hthrough'.trans hstays), fun report h => ?_, fun e h => nomatch h⟩
      cases h
      exact ⟨_, identifiers, _, _, hresult'.trans hreport', generated_again hagain identifiers,
        rfl, hlist', g.accounts_ofFates identifiers files, g.accounts_ofFates identifiers _,
        failed_again hagain identifiers⟩
    · -- the files are those of the messages before, so the second run stops there as well
      obtain ⟨herror, hthrough⟩ := generateEach_of_stops hb hr hs after {}
      obtain ⟨hlisting, -, hb', hstays⟩ := passesAll_again hl hb
      obtain ⟨herror', hthrough'⟩ := generateEach_of_stops hb' (by rw [hstays]; exact hr) hs after {}
      rw [show first.result = _ from hresult.trans herror,
        show first.files = _ from hfiles.trans hthrough]
      have hlist' := (congrArg Traced.outcome (hlisting value)).trans hlist
      obtain ⟨hresult', hfiles'⟩ := generateAll_of_listing hlist'
      refine ⟨hfiles'.trans (hthrough'.trans hstays), fun report h => ?_, fun e h => ?_⟩
      · cases h
      · exact (hresult'.trans herror').trans h

/-- Two messages of one class: the first fails, and is skipped once the second is generated. -/
theorem generateAll_again_two :
    let g : Generator :=
      { config := { javaPackage := "org.example", outputFolder := ⟨.here, ["out"]⟩,
                    keepGoing := true }
        source := .catalogue .ros1 [("p/A-B", "int8"), ("p/AB", "")] [] }
    let files : FileTree := ⟨[], [(["out"], .folder)]⟩
    let first := g.generateAll files "p"
    let second := g.generateAll first.files "p"
    files.LinkFree ∧ first.result = .ok ⟨[⟨.here, ["out", "ABMessage.java"]⟩], [],
      [("p/A-B", "Cannot parse field declaration 'int8'")]⟩ ∧
    second.files = first.files ∧ ∃ report', second.result = .ok report' ∧
      report'.generated = [] := by
  intro g files first second
  have hl : files.LinkFree := by
    intro e he target
    rw [List.mem_singleton.1 he]
    exact nofun
  have hresult : first.result = .ok ⟨[⟨.here, ["out", "ABMessage.java"]⟩], [],
      [("p/A-B", "Cannot parse field declaration 'int8'")]⟩ := by decide +kernel
  obtain ⟨hfiles, hreport, -⟩ := g.generateAll_again "p" hl
  obtain ⟨report', -, -, -, hsecond, hnone, -⟩ := hreport _ hresult
  exact ⟨hl, hresult, hfiles, report', hsecond, hnone⟩

end Generator

end RosBindings

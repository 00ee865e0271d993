import RosBindings.Proofs.OutputFolder

/-!
# Which messages become classes

A class is a file, so messages that share a class name share a file: the first one is
generated, and the file is then in the way of all others.

* `find_new_entry` (links or not): a new name in a folder leads to a free place there.
* `classMarks`: what becomes of the messages of a listing, by their class names.
* `Covers`: the files of a run hold the classes of the messages done, and nothing else new.
* `generateAll_covers`: every message becomes a class exactly if no two share a class name.
-/

namespace RosBindings

open FileTree (Grows)

/-! ## New names in a folder -/

namespace FileTree

variable {tree : FileTree} {p : Path} {l : Location} {name : Text} {last : LastLink}

/-- A folder without names has no entries. -/
theorem lookup_of_names_nil (hfind : tree.find .followed p = .ok (.taken l .folder))
    (h : tree.names p = []) (name : Text) : tree.lookup (l ++ [name]) = none := by
  have hat : tree.namesAt l = [] := by
    rw [names, hfind] at h
    exact h
  cases hl : tree.lookup (l ++ [name]) with
  | none => rfl
  | some entry =>
    have hname := mem_namesAt_iff.2 ⟨entry, hl⟩
    rw [hat] at hname
    cases hname

/-- **A new name in a folder** leads to a free place there, or nowhere. -/
theorem find_new_entry (hfind : tree.find .followed p = .ok (.taken l .folder))
    (hn : namesEntry name = true) (hnone : tree.lookup (l ++ [name]) = none)
    (hlast : last ≠ .written) :
    (∃ cause, tree.find last (p.entry name) = .error cause) ∨
      tree.find last (p.entry name) = .ok (.free (l ++ [name])) := by
  rcases find_entry_cases hfind hn hlast with ⟨-, herror⟩ | ⟨follow, hentry⟩
  · exact .inl herror
  · have hlink : ∀ target, tree.lookup (l ++ [name]) ≠ some (.link target) := by
      intro target
      rw [hnone]
      exact nofun
    rw [hentry, walkWith_name hn (.inr hlink), spotIn, hnone]
    split
    · exact .inl ⟨_, rfl⟩
    · exact .inr rfl

end FileTree

/-! ## Marks -/

/-- A message is skipped if one before it has its class, else generated. -/
def classMarks (done : List Text) : List Text → List Mark
  | [] => []
  | identifier :: rest =>
    (if Naming.className identifier ∈ done.map Naming.className then .skipped else .generated) ::
      classMarks (done ++ [identifier]) rest

section Marks

variable {identifier : Text} {identifiers done : List Text}

theorem marked_cons (m k : Mark) (identifier : Text) (identifiers : List Text)
    (marks : List Mark) : marked m (identifier :: identifiers) (k :: marks) =
      if k = m then identifier :: marked m identifiers marks else marked m identifiers marks := by
  unfold marked
  rw [List.zip_cons_cons, List.filter_cons]
  simp only [decide_eq_true_eq]
  split <;> rfl

theorem marked_of_seen (h : Naming.className identifier ∈ done.map Naming.className)
    (rest : List Text) :
    let marks := classMarks (done ++ [identifier]) rest
    marked .generated (identifier :: rest) (classMarks done (identifier :: rest)) =
        marked .generated rest marks ∧
      marked .skipped (identifier :: rest) (classMarks done (identifier :: rest)) =
        identifier :: marked .skipped rest marks := by
  intro marks
  rw [classMarks, if_pos h, marked_cons, marked_cons]
  exact ⟨rfl, rfl⟩

theorem marked_of_new (h : Naming.className identifier ∉ done.map Naming.className)
    (rest : List Text) :
    let marks := classMarks (done ++ [identifier]) rest
    marked .generated (identifier :: rest) (classMarks done (identifier :: rest)) =
        identifier :: marked .generated rest marks ∧
      marked .skipped (identifier :: rest) (classMarks done (identifier :: rest)) =
        marked .skipped rest marks := by
  intro marks
  rw [classMarks, if_neg h, marked_cons, marked_cons]
  exact ⟨rfl, rfl⟩

/-- The messages generated have different classes, and none of those before. -/
theorem generated_classMarks (done identifiers : List Text) :
    let generated := marked .generated identifiers (classMarks done identifiers)
    (generated.map Naming.className).Nodup ∧
      ∀ identifier ∈ generated, Naming.className identifier ∉ done.map Naming.className := by
  induction identifiers generalizing done with
  | nil => simp [marked]
  | cons identifier rest ih =>
    obtain ⟨hnodup, hnew⟩ := ih (done ++ [identifier])
    have hrest : ∀ other ∈ marked .generated rest (classMarks (done ++ [identifier]) rest),
        Naming.className other ∉ done.map Naming.className ∧
          Naming.className other ≠ Naming.className identifier := by
      intro other ho
      simpa [not_or] using hnew other ho
    intro generated
    by_cases hseen : Naming.className identifier ∈ done.map Naming.className
    · simp only [generated, (marked_of_seen hseen rest).1]
      exact ⟨hnodup, fun other ho => (hrest other ho).1⟩
    · simp only [generated, (marked_of_new hseen rest).1, List.map_cons, List.nodup_cons,
        List.forall_mem_cons]
      refine ⟨⟨fun hmem => ?_, hnodup⟩, hseen, fun other ho => (hrest other ho).1⟩
      obtain ⟨other, ho, heq⟩ := List.mem_map.1 hmem
      exact (hrest other ho).2 heq

/-- No message is skipped exactly if the classes are all different and new. -/
theorem skipped_eq_nil_iff :
    marked .skipped identifiers (classMarks done identifiers) = [] ↔
      (identifiers.map Naming.className).Nodup ∧
        ∀ identifier ∈ identifiers, Naming.className identifier ∉ done.map Naming.className := by
  induction identifiers generalizing done with
  | nil => simp [marked]
  | cons identifier rest ih =>
    by_cases hseen : Naming.className identifier ∈ done.map Naming.className
    · rw [(marked_of_seen hseen rest).2]
      simp only [reduceCtorEq, false_iff, not_and]
      intro _ hnew
      exact hnew identifier List.mem_cons_self hseen
    · rw [(marked_of_new hseen rest).2, ih, List.map_cons, List.nodup_cons, List.forall_mem_cons]
      constructor
      · rintro ⟨hnodup, hnew⟩
        refine ⟨⟨fun hmem => ?_, hnodup⟩, hseen, fun other ho hold => ?_⟩
        · obtain ⟨other, ho, heq⟩ := List.mem_map.1 hmem
          exact hnew other ho (by simp [heq])
        · exact hnew other ho (by rw [List.map_append]; exact List.mem_append_left _ hold)
      · rintro ⟨⟨hnot, hnodup⟩, -, hnew⟩
        refine ⟨hnodup, fun other ho hold => ?_⟩
        rw [List.map_append, List.mem_append, List.map_singleton, List.mem_singleton] at hold
        rcases hold with hold | heq
        · exact hnew other ho hold
        · exact hnot (heq ▸ List.mem_map_of_mem ho)

theorem generated_of_skipped_nil
    (h : marked .skipped identifiers (classMarks done identifiers) = []) :
    marked .generated identifiers (classMarks done identifiers) = identifiers := by
  induction identifiers generalizing done with
  | nil => rfl
  | cons identifier rest ih =>
    by_cases hseen : Naming.className identifier ∈ done.map Naming.className
    · rw [(marked_of_seen hseen rest).2] at h
      cases h
    · rw [(marked_of_new hseen rest).2] at h
      rw [(marked_of_new hseen rest).1, ih h]

end Marks

/-! ## Runs into an empty folder -/

namespace Generator

variable {g : Generator} {files now : FileTree} {folder : Location} {identifier : Text}
  {identifiers done : List Text}

theorem fileName_inj {other : Text} :
    fileName identifier = fileName other ↔
      Naming.className identifier = Naming.className other := by
  unfold fileName
  exact List.append_left_inj _

/-- The files of a run, some messages done: the classes of these are all that is new, and all
of them are there. -/
structure Covers (g : Generator) (files : FileTree) (folder : Location) (done : List Text)
    (now : FileTree) : Prop where
  grows : Grows (fun l => ∃ other ∈ done, l = folder ++ [fileName other]) files now
  there : ∀ other ∈ done, now.isPresent (g.outputPath other) = .ok true

section Step

variable (hfind : files.find .followed g.config.outputFolder = .ok (.taken folder .folder))
  (hempty : files.names g.config.outputFolder = []) (hc : g.Covers files folder done now)

include hfind hempty hc

/-- A class that no message had is at a free place, or nowhere. -/
theorem find_new_class (hnew : Naming.className identifier ∉ done.map Naming.className)
    (last : LastLink) (hlast : last ≠ .written) :
    (∃ cause, now.find last (g.outputPath identifier) = .error cause) ∨
      now.find last (g.outputPath identifier) = .ok (.free (folder ++ [fileName identifier])) := by
  have hfolder : now.find .followed g.config.outputFolder = .ok (.taken folder .folder) := by
    have hspot := FileTree.find_grows hc.grows .followed g.config.outputFolder
    rw [hfind] at hspot
    exact hspot.of_taken
  have hnone : now.lookup (folder ++ [fileName identifier]) = none := by
    rcases hc.grows.lookup_cases (folder ++ [fileName identifier]) with hsame | ⟨hother, -⟩
    · rw [hsame]
      exact FileTree.lookup_of_names_nil hfind hempty _
    · obtain ⟨other, ho, heq⟩ := hother
      rw [List.append_right_inj, List.cons.injEq, fileName_inj] at heq
      exact absurd (heq.1 ▸ List.mem_map_of_mem ho) hnew
  rw [outputPath_eq]
  exact FileTree.find_new_entry hfolder (namesEntry_fileName identifier) hnone hlast

/-- **A message that does not fail** is skipped if one before it has its class, and else
generated. -/
theorem generate_covers (hok : (Fate.ofResult (g.generate now identifier).result).mark ≠ .failed) :
    (Fate.ofResult (g.generate now identifier).result).mark =
        (if Naming.className identifier ∈ done.map Naming.className then .skipped
          else .generated) ∧
      g.Covers files folder (done ++ [identifier]) (g.generate now identifier).files := by
  have hmono : ∀ l, (∃ other ∈ done, l = folder ++ [fileName other]) →
      ∃ other ∈ done ++ [identifier], l = folder ++ [fileName other] := by
    rintro l ⟨other, ho, hl⟩
    exact ⟨other, List.mem_append_left _ ho, hl⟩
  by_cases hseen : Naming.className identifier ∈ done.map Naming.className
  · obtain ⟨other, ho, heq⟩ := List.mem_map.1 hseen
    have hpath : g.outputPath other = g.outputPath identifier :=
      outputPath_inj.2 (fileName_inj.2 heq)
    have hpresent : now.isPresent (g.outputPath identifier) = .ok true := by
      rw [← hpath]
      exact hc.there other ho
    obtain ⟨hresult, hfiles⟩ := (Generates.present hpresent).eq
    rw [hresult, hfiles, if_pos hseen]
    refine ⟨rfl, hc.grows.mono hmono, fun other ho => ?_⟩
    rcases List.mem_append.1 ho with ho | ho
    · exact hc.there other ho
    · rw [List.mem_singleton.1 ho]
      exact hpresent
  · have habsent : now.isPresent (g.outputPath identifier) ≠ .ok true := by
      intro hp
      unfold FileTree.isPresent at hp
      rcases find_new_class hfind hempty hc hseen .followed nofun with ⟨cause, hf⟩ | hf
      · rw [hf] at hp
        simp only at hp
        split at hp <;> cases hp
      · rw [hf] at hp
        cases hp
    have hspec := g.generate_spec now identifier
    generalize (g.generate now identifier).result = result,
      (g.generate now identifier).files = next at hspec hok ⊢
    cases hspec with
    | unclear | undrafted | refused => exact absurd rfl hok
    | present hp => exact absurd hp habsent
    | written text location hp hd hf =>
      rw [if_neg hseen]
      have hlocation : location = folder ++ [fileName identifier] := by
        rcases find_new_class hfind hempty hc hseen .kept nofun with ⟨cause, hf'⟩ | hf'
        · rw [hf] at hf'; cases hf'
        · rw [hf] at hf'
          cases hf'
          rfl
      have hadd : Grows (fun l => ∃ other ∈ done ++ [identifier], l = folder ++ [fileName other])
          now (now.add location (.file (Text.encode text))) :=
        .add ⟨identifier, List.mem_append_right _ List.mem_cons_self, hlocation⟩
          (FileTree.lookup_of_find hf) _
      refine ⟨rfl, (hc.grows.mono hmono).trans hadd, fun other ho => ?_⟩
      rcases List.mem_append.1 ho with ho | ho
      · exact FileTree.isPresent_true hadd (hc.there other ho)
      · rw [List.mem_singleton.1 ho]
        exact isPresent_of_written hf

end Step

/-- **A run without failures** generates the first message of every class. -/
theorem fates_covers
    (hfind : files.find .followed g.config.outputFolder = .ok (.taken folder .folder))
    (hempty : files.names g.config.outputFolder = []) (hc : g.Covers files folder done now)
    (hok : ∀ f ∈ g.fates identifiers now, f.mark ≠ .failed) :
    (g.fates identifiers now).map Fate.mark = classMarks done identifiers := by
  induction identifiers generalizing done now with
  | nil => rfl
  | cons identifier rest ih =>
    rw [fates, List.forall_mem_cons] at hok
    obtain ⟨hmark, hc'⟩ := generate_covers hfind hempty hc hok.1
    rw [fates, List.map_cons, classMarks, hmark, ih hc' hok.2]

/-- **The first message of every class is generated.** Where no message fails, a run into an
empty folder generates the messages that are the first of their class, under different paths,
and skips all others. So every message becomes a class exactly if no two of them have the same
class name, as is the case for different messages of a package with conventional names. -/
theorem generateAll_covers {value : Text}
    (hfolder : files.isFolder g.config.outputFolder = .ok true)
    (hempty : files.names g.config.outputFolder = [])
    (hlist : (g.listing files value).outcome = .ok identifiers)
    (hok : ∀ f ∈ g.fates identifiers files, f.mark ≠ .failed) :
    ∃ report, (g.generateAll files value).result = .ok report ∧ report.failed = [] ∧
      g.Accounts identifiers (classMarks [] identifiers) report ∧ report.generated.Nodup ∧
      (report.generated = identifiers.map g.outputPath ∧ report.skipped = [] ↔
        (identifiers.map Naming.className).Nodup) ∧
      ∀ (package : Text) (names : List Text),
        identifiers = names.map (package ++ '/' :: ·) → names.Nodup →
        (∀ name ∈ names, Naming.IsTypeName name) →
        report.generated = identifiers.map g.outputPath ∧ report.skipped = [] := by
  obtain ⟨folder, hfind⟩ := FileTree.isFolder_iff.1 hfolder
  have hstart : g.Covers files folder [] files := ⟨.refl _ files, by simp⟩
  have hpasses : g.PassesAll identifiers files := by
    intro f hf
    have hmark := hok f hf
    cases f with
    | generated | skipped => rfl
    | failed e => exact absurd rfl hmark
  have haccounts := g.accounts_ofFates identifiers files
  rw [fates_covers hfind hempty hstart hok] at haccounts
  have hresult := (generateAll_of_listing hlist).1.trans (generateEach_of_passesAll hpasses).1
  generalize hreport : Report.ofFates (identifiers.zip (g.fates identifiers files)) = report
    at haccounts hresult
  have hfailed : report.failed = [] := by
    rw [← hreport]
    exact Report.failed_eq_nil hok identifiers
  have hdifferent : report.generated.Nodup := by
    rw [haccounts.generated, List.Nodup, List.pairwise_map]
    refine (List.pairwise_map.1 (generated_classMarks [] identifiers).1).imp ?_
    intro a b hne heq
    exact hne (fileName_inj.1 (outputPath_inj.1 heq))
  have hall : report.generated = identifiers.map g.outputPath ∧ report.skipped = [] ↔
      (identifiers.map Naming.className).Nodup := by
    have hnil : report.skipped = [] ↔ (identifiers.map Naming.className).Nodup := by
      rw [haccounts.skipped, skipped_eq_nil_iff]
      simp
    refine ⟨fun h => hnil.1 h.2, fun h => ⟨?_, hnil.2 h⟩⟩
    have hskipped := hnil.2 h
    rw [haccounts.skipped] at hskipped
    rw [haccounts.generated, generated_of_skipped_nil hskipped]
  refine ⟨report, hresult, hfailed, haccounts, hdifferent, hall, ?_⟩
  rintro package names rfl hnames htype
  rw [hall, List.map_map]
  refine List.pairwise_map.2 (hnames.imp_of_mem fun {a b} ha hb hne heq => hne ?_)
  simp only [Function.comp_apply, (htype a ha).className_eq, (htype b hb).className_eq] at heq
  exact List.append_cancel_right heq

/-- Two messages with one class: the second is skipped though it was never generated. -/
theorem generateAll_covers_clash :
    let g : Generator :=
      { config := { javaPackage := "org.example", outputFolder := ⟨.here, ["out"]⟩ }
        source := .catalogue .ros1 [("p/MyType", ""), ("p/my_type", "")] [] }
    let files : FileTree := ⟨[], [(["out"], .folder)]⟩
    let identifiers : List Text := ["p/MyType", "p/my_type"]
    files.isFolder g.config.outputFolder = .ok true ∧ files.names g.config.outputFolder = [] ∧
      (g.listing files "p").outcome = .ok identifiers ∧ identifiers.Nodup ∧
      (∀ f ∈ g.fates identifiers files, f.mark ≠ .failed) ∧
      ∃ report, (g.generateAll files "p").result = .ok report ∧
        report.generated = [⟨.here, ["out", "MyTypeMessage.java"]⟩] ∧
        report.skipped = (["p/my_type"] : List Text) ∧ report.failed = [] := by
  intro g files identifiers
  have hfolder : files.isFolder g.config.outputFolder = .ok true := by decide +kernel
  have hempty : files.names g.config.outputFolder = [] := by decide +kernel
  have hlist : (g.listing files "p").outcome = .ok identifiers := by decide +kernel
  have hmarks : (g.fates identifiers files).map Fate.mark = [.generated, .skipped] := by
    decide +kernel
  have hok : ∀ f ∈ g.fates identifiers files, f.mark ≠ .failed := by
    intro f hf hmark
    have hmem : Mark.failed ∈ (g.fates identifiers files).map Fate.mark :=
      hmark ▸ List.mem_map_of_mem hf
    rw [hmarks] at hmem
    revert hmem
    decide
  obtain ⟨report, hresult, hfailed, haccounts, -⟩ := generateAll_covers hfolder hempty hlist hok
  refine ⟨hfolder, hempty, hlist, by decide +kernel, hok, report, hresult, ?_, ?_, hfailed⟩
  · rw [haccounts.generated]
    decide +kernel
  · rw [haccounts.skipped]
    decide +kernel

end Generator

end RosBindings

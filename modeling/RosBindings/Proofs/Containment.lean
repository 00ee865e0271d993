import RosBindings.Proofs.OutputFolder

/-!
# Classes stay in the output folder

A message may be called by any text: an absolute path, one that climbs out of its folder, one
with the slashes of another system. Its class still gets one name in the output folder, and no
run writes anywhere else.

* `find_entry_location` (links or not): the path of an entry leads right into the folder that the
  path of its folder leads to, or nowhere.
* `InOutput`, `filesAfter_inOutput`: what one class adds lies there, and so does what a run adds.
* `output_stays_in_folder`: both together, for every generator.
-/

namespace RosBindings

open FileTree (Grows)

namespace FileTree

variable {tree before after : FileTree} {P : Location → Prop} {p : Path} {name : Text}
  {l : Location}

/-! ## Entries and their folders -/

/-- A folder can be followed if one of its entries can. -/
theorem IsFollowed.of_entry (hp : p.IsNormal) (h : IsFollowed (p.entry name).text) :
    IsFollowed p.text := by
  obtain ⟨before, htext, hbefore⟩ := p.text_entry name
  rcases hbefore with ⟨hself, -⟩ | hbefore
  · rw [hself]
    exact ⟨by decide, by decide, by decide⟩
  · have hpath : p.text <+: (p.entry name).text := by
      rw [htext]
      rcases hbefore with rfl | rfl
      · exact List.prefix_append _ _
      · exact (List.prefix_append _ _).trans (List.prefix_append _ _)
    have hshort := Text.byteLength_le_of_prefix hpath
    exact ⟨fun hnul => h.nul (hpath.subset hnul), Path.text_ne_nil hp, hshort.trans h.short⟩

/-- **The path of an entry leads right into its folder.** -/
theorem find_entry_location (hp : p.IsNormal) (hn : namesEntry name = true) {s : Spot}
    (h : tree.find .kept (p.entry name) = .ok s) :
    ∃ folder, tree.find .followed p = .ok (.taken folder .folder) ∧
      s.location = folder ++ [name] := by
  have hentry := isFollowed_of_find h
  rw [find_eq_walk hentry] at h
  rw [find_eq_walk (hentry.of_entry hp)]
  cases walk_enters tree maxLinks (start p.anchor tree.here) p.segments with
  | folder folder follow hfolder hnames =>
    have hspot := (hnames name .kept hn (by decide)).symm.trans h
    rw [walkWith_name hn (.inl rfl)] at hspot
    exact ⟨folder, hfolder, location_of_spotIn hspot⟩
  | fails cause hno hnames =>
    have herror := hnames name .kept hn (by decide)
    cases herror.symm.trans h

/-- Files that are added make no folder and hide none. -/
theorem find_folder_grows (h : Grows P before after) :
    after.find .followed p = .ok (.taken l .folder) ↔
      before.find .followed p = .ok (.taken l .folder) := by
  have hspot := find_grows h .followed p
  constructor
  · intro hafter
    have hfolder := isFolder_iff.2 ⟨l, hafter⟩
    rw [isFolder_grows h] at hfolder
    obtain ⟨l', hbefore⟩ := isFolder_iff.1 hfolder
    rw [hbefore] at hspot
    rw [hspot.of_taken] at hafter
    cases hafter
    exact hbefore
  · intro hbefore
    rw [hbefore] at hspot
    exact hspot.of_taken

end FileTree

namespace Generator

variable {g : Generator} {files : FileTree}

/-! ## Names of classes -/

theorem messageJava_suffix_fileName (identifier : Text) :
    ("Message.java" : Text) <:+ fileName identifier := by
  refine ⟨Naming.camelCase (Naming.baseName identifier), ?_⟩
  rw [fileName, Naming.className, List.append_assoc]
  rfl

theorem nul_not_mem_fileName {identifier : Text} (h : Char.ofNat 0 ∉ identifier) :
    Char.ofNat 0 ∉ fileName identifier := by
  rw [fileName, List.mem_append, not_or]
  exact ⟨Naming.not_mem_className (fun hnul => absurd hnul h) (by decide) (by decide), by decide⟩

/-! ## Runs -/

/-- A place right in the output folder, under the name of a class. -/
def InOutput (g : Generator) (files : FileTree) (l : Location) : Prop :=
  ∃ folder identifier, files.find .followed g.config.outputFolder = .ok (.taken folder .folder) ∧
    l = folder ++ [fileName identifier]

/-- The output folder is the same one for every class of a run. -/
theorem InOutput.of_grows {P : Location → Prop} {after : FileTree} {l : Location}
    (h : Grows P files after) (hl : g.InOutput after l) : g.InOutput files l := by
  obtain ⟨folder, identifier, hfind, rfl⟩ := hl
  exact ⟨folder, identifier, (FileTree.find_folder_grows h).1 hfind, rfl⟩

/-- **One class adds a file in the output folder at most.** -/
theorem generate_inOutput (hp : g.config.outputFolder.IsNormal) (files : FileTree)
    (identifier : Text) : Grows (g.InOutput files) files (g.generate files identifier).files := by
  refine (g.generate_spec files identifier).grows fun location hfree => ?_
  rw [outputPath_eq] at hfree
  obtain ⟨folder, hfolder, hlocation⟩ :=
    FileTree.find_entry_location hp (namesEntry_fileName identifier) hfree
  exact ⟨folder, identifier, hfolder, hlocation⟩

/-- **So does a run**, whatever it is asked for. -/
theorem filesAfter_inOutput (hp : g.config.outputFolder.IsNormal) (files : FileTree)
    (r : Request) : Grows (g.InOutput files) files (g.filesAfter files r) := by
  cases r with
  | one identifier => exact generate_inOutput hp files identifier
  | all value =>
    refine generateAll_files (R := fun a b => Grows (g.InOutput a) a b)
      (fun a => .refl _ a) (fun hab hbc => ?_) (generate_inOutput hp) files value
    exact hab.trans (hbc.mono fun l hl => hl.of_grows hab)

/-- **Output stays in the output folder.** Whatever text a message is called by, the path of its
class is that of the output folder and one more segment, which is a name in this folder: without
slashes, neither the folder itself nor the one above, and ending as all class files do. It has a
NUL character only if the message has one. Read as it is written, the path leads through the
folder's segments and this one. So whatever is asked of the generator, in whatever tree, with
links or without, all that is new afterwards are class files right in the folder that the path
of the output folder leads to. -/
theorem output_stays_in_folder (g : Generator) :
    (∀ identifier, ∃ segment : Text,
      g.outputPath identifier = g.config.outputFolder.entry segment ∧
      '/' ∉ segment ∧ segment ≠ FileTree.selfName ∧ segment ≠ FileTree.parentName ∧
      ("Message.java" : Text) <:+ segment ∧
      (Char.ofNat 0 ∉ identifier → Char.ofNat 0 ∉ segment) ∧
      ∀ t, g.config.outputFolder = Path.ofText t →
        Path.ofText (g.outputPath identifier).text = (Path.ofText t).entry segment) ∧
    ∀ t, g.config.outputFolder = Path.ofText t → ∀ (files : FileTree) (r : Request),
      Grows (g.InOutput files) files (g.filesAfter files r) := by
  constructor
  · intro identifier
    have hname := isName_fileName identifier
    have hparent := (FileTree.namesEntry_iff.1 (namesEntry_fileName identifier)).2.2
    refine ⟨fileName identifier, outputPath_eq g identifier, hname.slash, hname.ne_self, hparent,
      messageJava_suffix_fileName identifier, nul_not_mem_fileName, fun t ht => ?_⟩
    rw [outputPath_eq, ht]
    exact Path.ofText_text ((Path.isNormal_ofText t).entry hname)
  · intro t ht files r
    exact filesAfter_inOutput (ht ▸ Path.isNormal_ofText t) files r

/-- A message called by an absolute path that climbs, with slashes of both kinds. -/
theorem output_stays_in_folder_climbing :
    let g : Generator :=
      { config := { javaPackage := "org.example", outputFolder := Path.ofText "gen//./out/" }
        source := .tools .ros1 }
    let files : FileTree := ⟨[], [(["gen"], .folder), (["gen", "out"], .folder)]⟩
    let identifier : Text := "/etc/../..\\.."
    Char.ofNat 0 ∉ identifier ∧
      (∃ segment, g.outputPath identifier = (Path.ofText "gen/out").entry segment ∧
        '/' ∉ segment ∧ segment ≠ FileTree.parentName ∧ Char.ofNat 0 ∉ segment) ∧
      Grows (g.InOutput files) files (g.filesAfter files (.one identifier)) := by
  intro g files identifier
  have hnul : Char.ofNat 0 ∉ identifier := by decide
  obtain ⟨hpath, hruns⟩ := output_stays_in_folder g
  obtain ⟨segment, hentry, hslash, -, hparent, -, hsegment, -⟩ := hpath identifier
  exact ⟨hnul, ⟨segment, hentry, hslash, hparent, hsegment hnul⟩,
    hruns "gen//./out/" rfl files (.one identifier)⟩

end Generator

end RosBindings

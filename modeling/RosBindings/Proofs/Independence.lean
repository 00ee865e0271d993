import RosBindings.Proofs.OutputFolder

/-!
# Messages do not influence each other

What becomes of a message does not depend on the messages before it, as long as their classes
have other paths: nothing that a message looks at is changed by them.

* `Same`: trees with the same entries, in whatever order they were added.
* `additions`: what a message adds to the files when it is alone.
* `IgnoresOutput`: a source that does not look at the classes written.
* `generate_after`: a message fares as it does alone where classes of others were written.
* `generation_in_any_order`: neither outcomes nor files depend on the order of the messages.
-/

namespace RosBindings

open FileTree (Grows)

/-! ## Trees with the same entries -/

namespace FileTree

variable {tree tree' : FileTree} {entries entries' : List (Location × Entry)} {l : Location}
  {last : LastLink}

/-- Two trees with the same entries, in whatever order they were added. -/
structure Same (tree tree' : FileTree) : Prop where
  here : tree.here = tree'.here
  entries : tree.entries.Perm tree'.entries
  lookup : ∀ l, tree.lookup l = tree'.lookup l

theorem walkWith_congr {follow follow' : Location → List Text → Except FileCause Spot}
    (hl : ∀ l, tree.lookup l = tree'.lookup l)
    (hf : ∀ folder segments, follow folder segments = follow' folder segments)
    (folder : Location) (segments : List Text) :
    tree.walkWith last follow folder segments = tree'.walkWith last follow' folder segments := by
  induction segments generalizing folder with
  | nil => rfl
  | cons segment rest ih => simp only [walkWith, ih, hl, hf]

/-- **Every path leads to the same spot in both.** -/
theorem Same.find (h : tree.Same tree') (last : LastLink) (p : Path) :
    tree.find last p = tree'.find last p := by
  have hwalk : ∀ links folder segments,
      tree.walk last links folder segments = tree'.walk last links folder segments := by
    intro links
    induction links with
    | zero => exact walkWith_congr h.lookup fun _ _ => rfl
    | succ links ih => exact walkWith_congr h.lookup ih
  rcases find_eq_or p with ⟨cause, hfind⟩ | hfind
  · rw [hfind, hfind]
  · rw [hfind, hfind, h.here, hwalk]

theorem Same.read (h : tree.Same tree') (p : Path) : tree.read p = tree'.read p := by
  unfold FileTree.read
  rw [h.find]

theorem lookup_eq_some_iff_mem {e : Entry} (hn : (entries.map Prod.fst).Nodup) :
    entries.lookup l = some e ↔ (l, e) ∈ entries := by
  constructor
  · intro h
    obtain ⟨before, after, rfl, -⟩ := List.lookup_eq_some_iff.1 h
    simp
  · intro h
    obtain ⟨before, after, rfl⟩ := List.append_of_mem h
    refine List.lookup_eq_some_iff.2 ⟨before, after, rfl, fun x hx => ?_⟩
    rw [bne_iff_ne]
    rintro rfl
    rw [List.map_append, List.map_cons, List.nodup_append] at hn
    exact hn.2.2 x.1 (List.mem_map_of_mem hx) x.1 List.mem_cons_self rfl

theorem lookup_perm (h : entries.Perm entries') (hn : (entries.map Prod.fst).Nodup)
    (l : Location) : entries.lookup l = entries'.lookup l := by
  have hn' : (entries'.map Prod.fst).Nodup := (h.map Prod.fst).nodup_iff.1 hn
  refine Option.ext fun e => ?_
  rw [lookup_eq_some_iff_mem hn, lookup_eq_some_iff_mem hn', h.mem_iff]

/-- Entries added in different orders make the same tree, if no two are at one location. -/
theorem same_of_perm {new new' : List (Location × Entry)} (h : new.Perm new')
    (hn : (new.map Prod.fst).Nodup) (tree : FileTree) :
    Same { tree with entries := tree.entries ++ new }
      { tree with entries := tree.entries ++ new' } where
  here := rfl
  entries := h.append_left _
  lookup l := by
    by_cases hl : l = []
    · subst hl; rfl
    · rw [lookup_of_ne _ hl, lookup_of_ne _ hl, List.lookup_append, List.lookup_append,
        lookup_perm h hn]

/-- What is not created in one tree is not created in another where its path leads to the
same spot. -/
theorem create_error {before after : FileTree} {p : Path} {content : ByteArray} {e : FileError}
    (h : after.find .kept p = before.find .kept p) (hc : before.create p content = .error e) :
    after.create p content = .error e := by
  unfold create addNew at hc ⊢
  rw [h]
  cases hf : before.find .kept p with
  | error cause => rw [hf] at hc; exact hc
  | ok s =>
    rw [hf] at hc
    cases s with
    | taken location entry => exact hc
    | free location => cases hc

end FileTree

namespace Generator

variable {g : Generator} {files : FileTree} {identifier : Text} {identifiers done order : List Text}

/-! ## What a message adds -/

/-- What a message adds to the files. -/
def additions (g : Generator) (files : FileTree) (identifier : Text) : List (Location × Entry) :=
  (g.generate files identifier).files.entries.drop files.entries.length

/-- The files with what each message adds to them alone. -/
def withAll (g : Generator) (files : FileTree) (identifiers : List Text) : FileTree :=
  { files with entries := files.entries ++ identifiers.flatMap (g.additions files) }

/-- A message adds nothing, or a file at the free place of its path. -/
theorem additions_cases (g : Generator) (files : FileTree) (identifier : Text) :
    g.additions files identifier = [] ∨
      ∃ location content, files.find .kept (g.outputPath identifier) = .ok (.free location) ∧
        g.additions files identifier = [(location, .file content)] := by
  have hspec := g.generate_spec files identifier
  unfold additions
  generalize (g.generate files identifier).result = result,
    (g.generate files identifier).files = after at hspec ⊢
  cases hspec with
  | unclear | present | undrafted | refused => exact .inl List.drop_length
  | written text location _ _ hf =>
    exact .inr ⟨location, Text.encode text, hf, List.drop_left⟩

theorem mem_additions {e : Location × Entry} (h : e ∈ g.additions files identifier) :
    files.find .kept (g.outputPath identifier) = .ok (.free e.1) ∧
      ∃ content, e.2 = .file content := by
  rcases g.additions_cases files identifier with hnone | ⟨location, content, hfree, hnew⟩
  · rw [hnone] at h; cases h
  · rw [hnew, List.mem_singleton] at h
    subst h
    exact ⟨hfree, content, rfl⟩

/-- Without links a free place has one output path. -/
theorem outputPath_of_free {other : Text} {l : Location} (hl : files.LinkFree)
    (h : files.find .kept (g.outputPath identifier) = .ok (.free l))
    (ho : files.find .kept (g.outputPath other) = .ok (.free l)) :
    g.outputPath identifier = g.outputPath other := by
  rw [outputPath_inj]
  rw [outputPath_eq] at h ho
  have hname := FileTree.find_getLast? (p := g.config.outputFolder.entry (fileName identifier)) hl
    rfl (namesEntry_fileName identifier) h
  rw [FileTree.find_getLast? (p := g.config.outputFolder.entry (fileName other)) hl rfl
    (namesEntry_fileName other) ho, Option.some.injEq] at hname
  exact hname.symm

/-- A free place of an output path. -/
def IsOutput (g : Generator) (files : FileTree) (l : Location) : Prop :=
  ∃ identifier, files.find .kept (g.outputPath identifier) = .ok (.free l)

/-- A free place of an output path other than a message's own. -/
def IsOtherOutput (g : Generator) (files : FileTree) (identifier : Text) (l : Location) : Prop :=
  ∃ other, g.outputPath other ≠ g.outputPath identifier ∧
    files.find .kept (g.outputPath other) = .ok (.free l)

theorem IsOtherOutput.isOutput {l : Location} (h : g.IsOtherOutput files identifier l) :
    g.IsOutput files l := by
  obtain ⟨other, -, hfree⟩ := h
  exact ⟨other, hfree⟩

theorem IsOutput.isClassFile {l : Location} (hl : files.LinkFree) (h : g.IsOutput files l) :
    IsClassFile l := by
  obtain ⟨identifier, hfree⟩ := h
  exact isClassFile_of_find hl hfree

/-- What the source says about messages does not depend on the classes written. -/
def IgnoresOutput (g : Generator) (files : FileTree) (identifiers : List Text) : Prop :=
  ∀ after, Grows (g.IsOutput files) files after → ∀ identifier ∈ identifiers,
    (g.source.readLines (g.world after) identifier).outcome =
      (g.source.readLines (g.world files) identifier).outcome ∧
    (g.source.checksum (g.world after) identifier).outcome =
      (g.source.checksum (g.world files) identifier).outcome

theorem IgnoresOutput.of_not_folder (h : ∀ dialect root, g.source ≠ .folder dialect root) :
    g.IgnoresOutput files identifiers := by
  intro after _ identifier _
  cases hs : g.source with
  | catalogue => exact ⟨rfl, rfl⟩
  | folder dialect root => exact absurd hs (h dialect root)
  | tools dialect => cases dialect <;> exact ⟨rfl, rfl⟩

/-- Definitions that can be read are read as before. -/
theorem IgnoresOutput.of_readable {dialect : Dialect} {root : Path} (hl : files.LinkFree)
    (hs : g.source = .folder dialect root) (h : ∀ identifier ∈ identifiers,
      (files.read (Source.definitionFile root identifier)).isOk = true) :
    g.IgnoresOutput files identifiers := by
  intro after hgrows identifier hid
  have hok := h identifier hid
  have hread : after.read (Source.definitionFile root identifier) =
      files.read (Source.definitionFile root identifier) := by
    rcases read_definition hl (hgrows.mono fun l => IsOutput.isClassFile hl) root identifier with
      hsame | ⟨hbefore, -⟩
    · exact hsame
    · rw [hbefore] at hok; cases hok
  rw [hs]
  simp only [Source.readLines, Source.checksum, Source.fileLines, Source.fileDigest, world, hread,
    and_self]

/-! ## One message among others -/

section Step

variable {after : FileTree} (hl : files.LinkFree)
  (hgrows : Grows (g.IsOtherOutput files identifier) files after)

include hl hgrows

theorem find_outputPath (last : LastLink) (hlast : last ≠ .written) :
    after.find last (g.outputPath identifier) = files.find last (g.outputPath identifier) := by
  rw [outputPath_eq]
  refine FileTree.find_entry_grows hl hgrows (namesEntry_fileName identifier) ?_ hlast
  rintro l ⟨other, hne, hfree⟩
  rw [Ne, outputPath_inj] at hne
  rw [outputPath_eq] at hfree
  exact ⟨fileName other, namesEntry_fileName other, hne, hfree⟩

theorem draft_after (hs : g.IgnoresOutput files [identifier]) :
    (g.draft after identifier).outcome = (g.draft files identifier).outcome := by
  have houtput := hgrows.mono fun l => IsOtherOutput.isOutput
  obtain ⟨hlines, hsum⟩ := hs after houtput identifier List.mem_cons_self
  rw [draft_outcome, draft_outcome, hlines, hsum,
    style_grows hl (houtput.mono fun l => IsOutput.isClassFile hl)]

/-- **A message fares as it does alone** where others' classes were written. -/
theorem generate_after (hs : g.IgnoresOutput files [identifier]) :
    (g.generate after identifier).result = (g.generate files identifier).result ∧
      (g.generate after identifier).files =
        { after with entries := after.entries ++ g.additions files identifier } ∧
      (g.generate after identifier).files.read (g.outputPath identifier) =
        (g.generate files identifier).files.read (g.outputPath identifier) := by
  have hkept := find_outputPath hl hgrows .kept nofun
  have hfollowed := find_outputPath hl hgrows .followed nofun
  have hpresent : after.isPresent (g.outputPath identifier) =
      files.isPresent (g.outputPath identifier) := by
    rw [FileTree.isPresent, FileTree.isPresent, hfollowed]
  have hread : after.read (g.outputPath identifier) = files.read (g.outputPath identifier) := by
    rw [FileTree.read, FileTree.read, hfollowed]
  have hdraft := draft_after hl hgrows hs
  -- where nothing is written, both keep their files
  have hstays : ∀ {result}, Generates g files identifier result files →
      Generates g after identifier result after →
      (g.generate after identifier).result = result ∧
      (g.generate after identifier).files =
        { after with entries := after.entries ++ g.additions files identifier } ∧
      (g.generate after identifier).files.read (g.outputPath identifier) =
        files.read (g.outputPath identifier) := by
    intro result halone hafter
    have hnone : g.additions files identifier = [] := by
      rw [additions, halone.eq.2, List.drop_length]
    obtain ⟨hresult, hfiles⟩ := hafter.eq
    rw [hfiles, hnone, List.append_nil]
    exact ⟨hresult, rfl, hread⟩
  have hspec := g.generate_spec files identifier
  generalize hr : (g.generate files identifier).result = result,
    hf : (g.generate files identifier).files = next at hspec
  cases hspec with
  | unclear e hp => exact hstays (.unclear e hp) (.unclear e (hpresent.trans hp))
  | present hp => exact hstays (.present hp) (.present (hpresent.trans hp))
  | undrafted e hp hd =>
    exact hstays (.undrafted e hp hd) (.undrafted e (hpresent.trans hp) (hdraft.trans hd))
  | refused text e hp hd hc =>
    obtain ⟨b, hd⟩ := hd
    have hc' := FileTree.create_error hkept hc
    exact hstays (.refused text e hp ⟨b, hd⟩ hc)
      (.refused text e (hpresent.trans hp) ⟨b, hdraft.trans hd⟩ hc')
  | written text location hp hd hfree =>
    obtain ⟨b, hd'⟩ := draft_of_renders hd
    obtain ⟨hresult, hfiles⟩ := (Generates.written text location (hpresent.trans hp)
      (renders_of_draft (hdraft.trans hd')).1 (hkept.trans hfree)).eq
    have hnew : g.additions files identifier = [(location, .file (Text.encode text))] := by
      rw [additions, hf]
      exact List.drop_left
    refine ⟨hresult, by rw [hfiles, hnew]; rfl, ?_⟩
    rw [hfiles, (FileTree.gains_add (hkept.trans hfree) _).read,
      (FileTree.gains_add hfree _).read]

end Step

/-! ## All messages -/

/-- The additions of messages are files at the free places of their paths. -/
theorem withAll_grows (g : Generator) (files : FileTree) (identifiers : List Text) :
    Grows (fun l => ∃ identifier ∈ identifiers,
      files.find .kept (g.outputPath identifier) = .ok (.free l)) files
      (g.withAll files identifiers) := by
  refine ⟨rfl, identifiers.flatMap (g.additions files), rfl, fun e he => ?_⟩
  obtain ⟨identifier, hid, he⟩ := List.mem_flatMap.1 he
  obtain ⟨hfree, hfile⟩ := mem_additions he
  exact ⟨⟨identifier, hid, hfree⟩, FileTree.lookup_of_find hfree, hfile⟩

theorem withAll_append (g : Generator) (files : FileTree) (done : List Text) (identifier : Text) :
    g.withAll files (done ++ [identifier]) = { g.withAll files done with
      entries := (g.withAll files done).entries ++ g.additions files identifier } := by
  simp only [withAll, List.flatMap_append, List.flatMap_singleton, List.append_assoc]

/-- Different output paths have different places. -/
theorem additions_nodup (hl : files.LinkFree) (hp : (identifiers.map g.outputPath).Nodup) :
    ((identifiers.flatMap (g.additions files)).map Prod.fst).Nodup := by
  rw [List.map_flatMap, List.nodup_flatMap]
  constructor
  · intro identifier _
    rcases g.additions_cases files identifier with hnone | ⟨location, content, -, hnew⟩
    · rw [hnone]; exact List.nodup_nil
    · rw [hnew]; exact List.nodup_singleton _
  · refine (List.pairwise_map.1 hp).imp fun {a b} hne => ?_
    intro l hla hlb
    obtain ⟨ea, hea, rfl⟩ := List.mem_map.1 hla
    obtain ⟨eb, heb, hsame⟩ := List.mem_map.1 hlb
    have hfree := (mem_additions heb).1
    rw [hsame] at hfree
    exact hne (outputPath_of_free hl (mem_additions hea).1 hfree)

section Run

variable (hl : files.LinkFree) (hs : g.IgnoresOutput files identifiers)

include hl hs

theorem generate_withAll (hid : identifier ∈ identifiers)
    (hp : ∀ other ∈ done, g.outputPath other ≠ g.outputPath identifier) :
    (g.generate (g.withAll files done) identifier).result =
        (g.generate files identifier).result ∧
      (g.generate (g.withAll files done) identifier).files =
        g.withAll files (done ++ [identifier]) ∧
      (g.withAll files (done ++ [identifier])).read (g.outputPath identifier) =
        (g.generate files identifier).files.read (g.outputPath identifier) := by
  have hgrows : Grows (g.IsOtherOutput files identifier) files (g.withAll files done) := by
    refine (g.withAll_grows files done).mono ?_
    rintro l ⟨other, hother, hfree⟩
    exact ⟨other, hp other hother, hfree⟩
  have hs' : g.IgnoresOutput files [identifier] := by
    intro after hafter other hother
    rw [List.mem_singleton.1 hother]
    exact hs after hafter identifier hid
  obtain ⟨hresult, hfiles, hread⟩ := generate_after hl hgrows hs'
  rw [← withAll_append] at hfiles
  rw [hfiles] at hread
  exact ⟨hresult, hfiles, hread⟩

/-- **A run is what its messages are alone**, one after the other. -/
theorem run_withAll {rest : List Text} (hrest : rest ⊆ identifiers)
    (hp : ((done ++ rest).map g.outputPath).Nodup) :
    g.fates rest (g.withAll files done) =
        rest.map (fun identifier => Fate.ofResult (g.generate files identifier).result) ∧
      g.filesThrough rest (g.withAll files done) = g.withAll files (done ++ rest) := by
  induction rest generalizing done with
  | nil => rw [List.append_nil]; exact ⟨rfl, rfl⟩
  | cons identifier rest ih =>
    obtain ⟨hid, hrest⟩ := List.cons_subset.1 hrest
    have hother : ∀ other ∈ done, g.outputPath other ≠ g.outputPath identifier := by
      intro other hother
      rw [List.map_append, List.nodup_append] at hp
      exact hp.2.2 _ (List.mem_map_of_mem hother) _ List.mem_cons_self
    obtain ⟨hresult, hfiles, -⟩ := generate_withAll hl hs hid hother
    rw [List.append_cons] at hp ⊢
    obtain ⟨hfates, hthrough⟩ := ih hrest hp
    constructor
    · rw [fates, List.map_cons, hresult, hfiles, hfates]
    · rw [filesThrough, List.foldl_cons, hfiles]
      exact hthrough

end Run

/-- **Messages do not influence each other.** Without symbolic links, with a source that does
not look at the classes written (only a folder could), and for messages with different output
paths: in whatever order their classes are generated, and whatever fails, each message comes to
what it comes to alone, the files in the end are the same, and the text in the file of each
class is the one it has when it is generated alone. -/
theorem generation_in_any_order {order : List Text} (hl : files.LinkFree)
    (hs : ∀ dialect root, g.source = .folder dialect root → g.IgnoresOutput files identifiers)
    (hp : (identifiers.map g.outputPath).Nodup) (ho : order.Perm identifiers) :
    g.fates order files =
        order.map (fun identifier => Fate.ofResult (g.generate files identifier).result) ∧
      (g.filesThrough order files).Same (g.filesThrough identifiers files) ∧
      ∀ identifier ∈ order, (g.filesThrough order files).read (g.outputPath identifier) =
        (g.generate files identifier).files.read (g.outputPath identifier) := by
  have hignores : g.IgnoresOutput files identifiers := by
    by_cases hfolder : ∃ dialect root, g.source = .folder dialect root
    · obtain ⟨dialect, root, hsource⟩ := hfolder
      exact hs dialect root hsource
    · exact .of_not_folder fun dialect root hsource => hfolder ⟨dialect, root, hsource⟩
  have hnil : g.withAll files [] = files := by rw [withAll, List.flatMap_nil, List.append_nil]
  have hrun : ∀ {order' : List Text}, order'.Perm identifiers →
      g.fates order' files =
          order'.map (fun identifier => Fate.ofResult (g.generate files identifier).result) ∧
        g.filesThrough order' files = g.withAll files order' := by
    intro order' ho'
    have hp' : ((([] : List Text) ++ order').map g.outputPath).Nodup :=
      (ho'.map g.outputPath).nodup_iff.2 hp
    have hwith := run_withAll hl hignores ho'.subset hp'
    rwa [hnil] at hwith
  have hsame : ∀ {order' : List Text}, order.Perm order' →
      (g.withAll files order).Same (g.withAll files order') := by
    intro order' ho'
    refine FileTree.same_of_perm (ho'.flatMap_right _) ?_ files
    exact additions_nodup hl ((ho.map g.outputPath).nodup_iff.2 hp)
  obtain ⟨hfates, hthrough⟩ := hrun ho
  refine ⟨hfates, ?_, fun identifier hid => ?_⟩
  · rw [hthrough, (hrun (.refl identifiers)).2]
    exact hsame ho
  · -- as if the message came last
    have hlast : order.Perm (order.erase identifier ++ [identifier]) :=
      (List.perm_cons_erase hid).trans (List.perm_append_singleton identifier _).symm
    have hnodup := ((hlast.symm.trans ho).map g.outputPath).nodup_iff.2 hp
    have hother : ∀ other ∈ order.erase identifier,
        g.outputPath other ≠ g.outputPath identifier := by
      intro other hother
      rw [List.map_append, List.nodup_append] at hnodup
      exact hnodup.2.2 _ (List.mem_map_of_mem hother) _ List.mem_cons_self
    rw [hthrough, (hsame hlast).read]
    exact (generate_withAll hl hignores (ho.subset hid) hother).2.2

/-- Definitions in a folder, backwards: one is generated, one fails, one has its class. -/
theorem generation_in_any_order_backwards :
    let g : Generator :=
      { config := { javaPackage := "org.example", outputFolder := ⟨.here, ["out"]⟩ }
        source := .folder .ros1 ⟨.here, ["msgs"]⟩ }
    let files : FileTree :=
      ⟨[], [(["out"], .folder), (["out", "CMessage.java"], .file .empty), (["msgs"], .folder),
        (["msgs", "p"], .folder), (["msgs", "p", "A.msg"], .file (Text.encode "int8 a")),
        (["msgs", "p", "B.msg"], .file (Text.encode "int8")),
        (["msgs", "p", "C.msg"], .file .empty)]⟩
    let identifiers : List Text := ["p/A", "p/B", "p/C"]
    let order := identifiers.reverse
    files.LinkFree ∧ g.IgnoresOutput files identifiers ∧
      (identifiers.map g.outputPath).Nodup ∧ order.Perm identifiers ∧
      g.fates order files =
        [.skipped, .failed (.line (.incomplete "int8")),
          .generated ⟨.here, ["out", "AMessage.java"]⟩] ∧
      (g.filesThrough order files).Same (g.filesThrough identifiers files) ∧
      (g.filesThrough order files).read ⟨.here, ["out", "AMessage.java"]⟩ =
        (g.generate files "p/A").files.read ⟨.here, ["out", "AMessage.java"]⟩ := by
  intro g files identifiers order
  have hl : files.LinkFree := by
    intro e he target
    simp only [files, List.mem_cons, List.not_mem_nil, or_false] at he
    rcases he with rfl | rfl | rfl | rfl | rfl | rfl | rfl <;> exact nofun
  have hs : g.IgnoresOutput files identifiers :=
    .of_readable hl rfl (List.all_eq_true.1 (by decide +kernel))
  have hp : (identifiers.map g.outputPath).Nodup := by decide +kernel
  have ho : order.Perm identifiers := List.reverse_perm _
  obtain ⟨hfates, hsame, hread⟩ := generation_in_any_order hl (fun _ _ _ => hs) hp ho
  refine ⟨hl, hs, hp, ho, ?_, hsame, hread "p/A" (by decide)⟩
  have hA : (g.generate files "p/A").result = .ok (some ⟨.here, ["out", "AMessage.java"]⟩) := by
    decide +kernel
  have hB : (g.generate files "p/B").result = .error (.line (.incomplete "int8")) := by
    decide +kernel
  have hC : (g.generate files "p/C").result = .ok none := by decide +kernel
  rw [hfates]
  change [Fate.ofResult (g.generate files "p/C").result,
    Fate.ofResult (g.generate files "p/B").result,
    Fate.ofResult (g.generate files "p/A").result] = _
  rw [hA, hB, hC]
  rfl

end Generator
end RosBindings

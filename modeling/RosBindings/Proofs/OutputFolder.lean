import RosBindings.Proofs.Names
import RosBindings.Proofs.Paths
import RosBindings.Proofs.Rerun

/-!
# One folder for all classes

The name of a class is one segment, so all classes of a generator lie in its output folder,
and two of them share a file exactly if they share a name.

* `Enters`, `walk_enters` (links or not): the names behind some segments are all looked up in
  one folder, or none of them leads anywhere.
* `find_entry_grows`: without links, a name leads to the same spot when files of other names
  were added to its folder.
* `outputPath_eq`: the path of a class is the output folder and one name.
-/

namespace RosBindings

namespace FileTree

variable {tree : FileTree} {last : LastLink} {folder l : Location} {segment name other : Text}
  {rest : List Text} {follow : Location → List Text → Except FileCause Spot} {p : Path}

/-! ## Steps of a way -/

section Steps

variable (hn : namesEntry segment = true) (hlast : last ≠ .written)

include hn hlast

theorem walkWith_tooLong (hlong : maxName < Text.byteLength segment) :
    tree.walkWith last follow folder (segment :: rest) = .error .nameTooLong := by
  simp only [namesEntry, Bool.and_eq_true, Bool.not_eq_true', bne_iff_ne] at hn
  rw [walkWith, hn.1, if_neg Bool.false_ne_true, if_neg hn.2, if_neg fun h => hlast h.1,
    if_pos hlong]

variable (hlong : ¬ maxName < Text.byteLength segment)

include hlong

theorem walkWith_missing (hl : tree.lookup (folder ++ [segment]) = none) (hrest : rest ≠ []) :
    tree.walkWith last follow folder (segment :: rest) = .error .notFound := by
  simp only [namesEntry, Bool.and_eq_true, Bool.not_eq_true', bne_iff_ne] at hn
  rw [walkWith, hn.1, if_neg Bool.false_ne_true, if_neg hn.2, if_neg fun h => hlast h.1,
    if_neg hlong]
  simp only [hl]
  exact if_neg (by simpa using hrest)

theorem walkWith_folder (hl : tree.lookup (folder ++ [segment]) = some .folder) :
    tree.walkWith last follow folder (segment :: rest) =
      tree.walkWith last follow (folder ++ [segment]) rest := by
  simp only [namesEntry, Bool.and_eq_true, Bool.not_eq_true', bne_iff_ne] at hn
  rw [walkWith, hn.1, if_neg Bool.false_ne_true, if_neg hn.2, if_neg fun h => hlast h.1,
    if_neg hlong]
  simp only [hl]

theorem walkWith_file {content : ByteArray}
    (hl : tree.lookup (folder ++ [segment]) = some (.file content)) (hrest : rest ≠ []) :
    tree.walkWith last follow folder (segment :: rest) = .error .notFolder := by
  simp only [namesEntry, Bool.and_eq_true, Bool.not_eq_true', bne_iff_ne] at hn
  rw [walkWith, hn.1, if_neg Bool.false_ne_true, if_neg hn.2, if_neg fun h => hlast h.1,
    if_neg hlong]
  simp only [hl]
  exact if_neg (by simpa using hrest)

theorem walkWith_link {target : Text}
    (hl : tree.lookup (folder ++ [segment]) = some (.link target))
    (hgoes : rest ≠ [] ∨ last ≠ .kept) :
    tree.walkWith last follow folder (segment :: rest) =
      follow (start (Path.anchorOf target) folder) (writtenSegments target ++ rest) := by
  simp only [namesEntry, Bool.and_eq_true, Bool.not_eq_true', bne_iff_ne] at hn
  rw [walkWith, hn.1, if_neg Bool.false_ne_true, if_neg hn.2, if_neg fun h => hlast h.1,
    if_neg hlong]
  simp only [hl]
  refine if_neg ?_
  rw [Bool.and_eq_true, List.isEmpty_iff, beq_iff_eq]
  rintro ⟨hnil, hkept⟩
  exact hgoes.elim (· hnil) (· hkept)

end Steps

/-! ## Names in a folder -/

/-- What a name leads to in a folder, unless a link goes on from there. -/
def spotIn (tree : FileTree) (folder : Location) (name : Text) : Except FileCause Spot :=
  if maxName < Text.byteLength name then .error .nameTooLong
  else
    match tree.lookup (folder ++ [name]) with
    | none => .ok (.free (folder ++ [name]))
    | some entry => .ok (.taken (folder ++ [name]) entry)

theorem spotIn_ne_notFound (folder : Location) (name : Text) :
    tree.spotIn folder name ≠ .error .notFound := by
  unfold spotIn
  split
  · simp
  · split <;> simp

theorem location_of_spotIn {s : Spot} (h : tree.spotIn folder name = .ok s) :
    s.location = folder ++ [name] := by
  unfold spotIn at h
  split at h
  · cases h
  · split at h <;> cases h <;> rfl

theorem walkWith_name (hn : namesEntry name = true)
    (hlink : last = .kept ∨ ∀ target, tree.lookup (folder ++ [name]) ≠ some (.link target)) :
    tree.walkWith last follow folder [name] = tree.spotIn folder name := by
  simp only [namesEntry, Bool.and_eq_true, Bool.not_eq_true', bne_iff_ne] at hn
  rw [walkWith, hn.1, if_neg Bool.false_ne_true, if_neg hn.2, if_neg (by simp), spotIn]
  congr 1
  simp only
  cases hl : tree.lookup (folder ++ [name]) with
  | none => rfl
  | some entry =>
    cases entry with
    | folder => rfl
    | file content => rfl
    | link target =>
      rcases hlink with rfl | hlink
      · rfl
      · exact absurd hl (hlink target)

/-- What the names behind some segments have in common. -/
inductive Enters (tree : FileTree) (go : LastLink → List Text → Except FileCause Spot)
    (segments : List Text) : Prop
  /-- The segments lead to a folder, and every name is looked up there. -/
  | folder (l : Location) (follow : LastLink → Location → List Text → Except FileCause Spot)
    (h : go .followed segments = .ok (.taken l .folder))
    (hnames : ∀ name last, namesEntry name = true → last ≠ .written →
      go last (segments ++ [name]) = tree.walkWith last (follow last) l [name])
  /-- The segments lead to no folder, and no name leads anywhere, all for one reason. -/
  | fails (cause : FileCause) (hno : ∀ l, go .followed segments ≠ .ok (.taken l .folder))
    (h : ∀ name last, namesEntry name = true → last ≠ .written →
      go last (segments ++ [name]) = .error cause)

theorem Enters.of_eq {go go' : LastLink → List Text → Except FileCause Spot}
    {segments segments' : List Text} (h : tree.Enters go segments)
    (hfollowed : go' .followed segments' = go .followed segments)
    (hnames : ∀ name last, last ≠ .written →
      go' last (segments' ++ [name]) = go last (segments ++ [name])) :
    tree.Enters go' segments' := by
  cases h with
  | folder l follow h hn =>
    refine .folder l follow (hfollowed.trans h) fun name last hname hlast => ?_
    rw [hnames name last hlast, hn name last hname hlast]
  | fails cause hno h =>
    refine .fails cause (by rwa [hfollowed]) fun name last hname hlast => ?_
    rw [hnames name last hlast, h name last hname hlast]

theorem walkWith_enters {follow : LastLink → Location → List Text → Except FileCause Spot}
    (hf : ∀ folder segments, tree.Enters (fun last => follow last folder) segments)
    (folder : Location) (segments : List Text) :
    tree.Enters (fun last => tree.walkWith last (follow last) folder) segments := by
  induction segments generalizing folder with
  | nil => exact .folder folder follow rfl fun name last _ _ => rfl
  | cons segment rest ih =>
    have hrest : ∀ name, rest ++ [name] ≠ [] := by simp
    have hfollowed : LastLink.followed ≠ .written := by decide
    by_cases hstay : staysPut segment = true
    · refine (ih folder).of_eq ?_ fun name last _ => ?_
      · simp only [walkWith, if_pos hstay]
      · simp only [List.cons_append, walkWith, if_pos hstay]
    by_cases hup : segment = parentName
    · refine (ih folder.dropLast).of_eq ?_ fun name last _ => ?_
      · simp only [walkWith, if_neg hstay, if_pos hup]
      · simp only [List.cons_append, walkWith, if_neg hstay, if_pos hup]
    -- the segment names an entry, and what that is decides for all names behind it
    have hn : namesEntry segment = true := by
      simp only [namesEntry, Bool.and_eq_true, Bool.not_eq_true', bne_iff_ne]
      exact ⟨by simpa using hstay, hup⟩
    by_cases hlong : maxName < Text.byteLength segment
    · refine .fails .nameTooLong (fun l => ?_) fun name last _ hlast =>
        walkWith_tooLong hn hlast hlong
      simp [walkWith_tooLong hn hfollowed hlong]
    cases hl : tree.lookup (folder ++ [segment]) with
    | none =>
      refine .fails .notFound (fun l => ?_) fun name last _ hlast =>
        walkWith_missing hn hlast hlong hl (hrest name)
      have hlink : ∀ target, tree.lookup (folder ++ [segment]) ≠ some (.link target) := by
        simp [hl]
      by_cases hr : rest = []
      · simp [hr, walkWith_name hn (.inr hlink), spotIn, hl, hlong]
      · simp [walkWith_missing hn hfollowed hlong hl hr]
    | some entry =>
      cases entry with
      | folder =>
        exact (ih (folder ++ [segment])).of_eq (walkWith_folder hn hfollowed hlong hl)
          fun name last hlast => walkWith_folder hn hlast hlong hl
      | file content =>
        refine .fails .notFolder (fun l => ?_) fun name last _ hlast =>
          walkWith_file hn hlast hlong hl (hrest name)
        have hlink : ∀ target, tree.lookup (folder ++ [segment]) ≠ some (.link target) := by
          simp [hl]
        by_cases hr : rest = []
        · simp [hr, walkWith_name hn (.inr hlink), spotIn, hl, hlong]
        · simp [walkWith_file hn hfollowed hlong hl hr]
      | link target =>
        refine (hf (start (Path.anchorOf target) folder) (writtenSegments target ++ rest)).of_eq
          (walkWith_link hn hfollowed hlong hl (.inr (by decide))) fun name last hlast => ?_
        rw [List.append_assoc]
        exact walkWith_link hn hlast hlong hl (.inl (hrest name))

/-- **The names behind some segments are all looked up in one folder**, or none leads
anywhere. -/
theorem walk_enters (tree : FileTree) (links : ℕ) (folder : Location) (segments : List Text) :
    tree.Enters (fun last => tree.walk last links folder) segments := by
  induction links generalizing folder segments with
  | zero =>
    exact walkWith_enters (fun _ _ => .fails .tooManyLinks (by simp) fun _ _ _ _ => rfl)
      folder segments
  | succ links ih => exact walkWith_enters ih folder segments

theorem find_entry_eq_or (p : Path) (name : Text) :
    (∃ cause, ∀ (tree : FileTree) (last : LastLink), tree.find last (p.entry name) = .error cause) ∨
      ∀ (tree : FileTree) (last : LastLink), tree.find last (p.entry name) =
        tree.walk last maxLinks (start p.anchor tree.here) (p.segments ++ [name]) :=
  find_eq_or (p.entry name)

/-- **The entries of a folder** are found in it, as far as their paths are followed. -/
theorem find_entry_cases (hfind : tree.find .followed p = .ok (.taken l .folder))
    (hn : namesEntry name = true) (hlast : last ≠ .written) :
    (¬ IsFollowed (p.entry name).text ∧ ∃ cause, tree.find last (p.entry name) = .error cause) ∨
      ∃ follow, tree.find last (p.entry name) = tree.walkWith last follow l [name] := by
  by_cases hentry : IsFollowed (p.entry name).text
  · rw [find_eq_walk (isFollowed_of_find hfind)] at hfind
    rw [find_eq_walk hentry]
    right
    cases walk_enters tree maxLinks (start p.anchor tree.here) p.segments with
    | folder l' follow h hnames =>
      obtain rfl : l' = l := by
        rw [hfind] at h
        cases h
        rfl
      exact ⟨follow last, hnames name last hn hlast⟩
    | fails cause hno h => exact absurd hfind (hno l)
  · obtain ⟨cause, herror⟩ := find_of_not_isFollowed hentry
    exact .inl ⟨hentry, cause, herror tree last⟩

/-! ## Without links -/

/-- Where one name of a folder leads to a spot, no other is missing a folder. -/
theorem find_entry_ne_notFound {s : Spot} (hl : tree.LinkFree) (hn : namesEntry name = true)
    (ho : namesEntry other = true) (hlast : last ≠ .written)
    (hs : tree.find .kept (p.entry other) = .ok s)
    (hwalk : tree.find last (p.entry name) =
      tree.walk last maxLinks (start p.anchor tree.here) (p.segments ++ [name])) :
    tree.find last (p.entry name) ≠ .error .notFound := by
  rw [hwalk]
  cases walk_enters tree maxLinks (start p.anchor tree.here) p.segments with
  | folder l follow h hnames =>
    rw [hnames name last hn hlast, walkWith_name hn (.inr fun target => hl.lookup target)]
    exact spotIn_ne_notFound l name
  | fails cause hno h =>
    rcases find_entry_eq_or p other with ⟨cause', hfind⟩ | hfind
    · rw [hfind] at hs; cases hs
    · rw [hfind, h other .kept ho nofun] at hs; cases hs

/-- **A name leads to the same spot** when files of other names were added to its folder. -/
theorem find_entry_grows {before after : FileTree} {P : Location → Prop} (hl : before.LinkFree)
    (h : Grows P before after) (hn : namesEntry name = true)
    (hP : ∀ l, P l → ∃ other, namesEntry other = true ∧ other ≠ name ∧
      before.find .kept (p.entry other) = .ok (.free l)) (hlast : last ≠ .written) :
    after.find last (p.entry name) = before.find last (p.entry name) := by
  have hspot := find_grows h last (p.entry name)
  cases hb : before.find last (p.entry name) with
  | ok s =>
    rw [hb] at hspot
    cases s with
    | taken l entry => exact hspot.of_taken
    | free l =>
      refine hspot.of_free.resolve_right ?_
      rintro ⟨hPl, -⟩
      -- the file at this place would have two names
      obtain ⟨other, ho, hne, hother⟩ := hP l hPl
      have hname := find_getLast? (p := p.entry name) hl rfl hn hb
      rw [find_getLast? (p := p.entry other) hl rfl ho hother, Option.some.injEq] at hname
      exact hne hname
  | error cause =>
    rw [hb] at hspot
    refine hspot.of_error.resolve_right ?_
    rintro ⟨rfl, hafter⟩
    rcases find_entry_eq_or p name with ⟨cause, hfind⟩ | hfind
    · rw [hfind] at hb hafter
      cases hb
      cases hafter
    · obtain ⟨new, hnew, hfiles⟩ := h.entries
      cases new with
      | nil =>
        have hsame : after = before := by
          obtain ⟨here, entries⟩ := before
          obtain ⟨here', entries'⟩ := after
          rw [FileTree.mk.injEq]
          exact ⟨h.here, by simpa using hnew⟩
        rw [hsame, hb] at hafter
        cases hafter
      | cons e new =>
        -- a file in the folder says that the folder is there
        obtain ⟨other, ho, -, hother⟩ := hP e.1 (hfiles e List.mem_cons_self).1
        exact find_entry_ne_notFound hl hn ho hlast hother (hfind before last) hb

end FileTree

/-! ## Output paths -/

namespace Generator

/-- The name of a class file. -/
def fileName (identifier : Text) : Text := Naming.className identifier ++ ".java"

theorem namesEntry_fileName (identifier : Text) :
    FileTree.namesEntry (fileName identifier) = true :=
  isExtension_java.namesEntry (Naming.className identifier)

theorem isName_fileName (identifier : Text) : Path.IsName (fileName identifier) := by
  obtain ⟨hnil, hself, -⟩ := FileTree.namesEntry_iff.1 (namesEntry_fileName identifier)
  refine ⟨hnil, hself, fun h => ?_⟩
  rcases List.mem_append.1 h with h | h
  · exact Naming.slash_not_mem_className identifier h
  · revert h; decide

/-- **Every class goes into the output folder**, under one name. -/
theorem outputPath_eq (g : Generator) (identifier : Text) :
    g.outputPath identifier = g.config.outputFolder.entry (fileName identifier) :=
  g.config.outputFolder.join_name (isName_fileName identifier)

theorem outputPath_inj {g : Generator} {identifier other : Text} :
    g.outputPath identifier = g.outputPath other ↔ fileName identifier = fileName other := by
  rw [outputPath_eq, outputPath_eq, Path.entry_inj]

end Generator

end RosBindings

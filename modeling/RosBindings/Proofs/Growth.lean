import Mathlib.Data.List.Sort
import RosBindings.FileTree.Access
import RosBindings.Proofs.Text

/-!
# File trees that grow

A file tree grows when files are added at free places and nothing else happens to it. What
was found by a path is then found by it still.

* `Grows`: one tree grows to another, with new files at locations of a kind only.
* `find_grows` (links or not): a path leads to the same spot afterwards, unless it led to
  a free place that is taken now, or nowhere because of a folder that is a file now.
* `walk_leads`: a way leads to an entry, to a free place, or to an error of the system.
* `read_grows`: without links, a path whose last name no new file has is read as before.
* `names_grows`: names of a kind that no new file has are listed as before.
-/

namespace RosBindings

/-- The location of a spot. -/
def Spot.location : Spot → Location
  | .taken l _ => l
  | .free l => l

/-- Whether a spot is a link. -/
def Spot.isLink : Spot → Bool
  | .taken _ (.link _) => true
  | _ => false

namespace FileTree

variable {tree before after : FileTree} {location l : Location} {entry : Entry}
  {P : Location → Prop} {last : LastLink} {p : Path}

/-! ## Entries -/

theorem lookup_nil (tree : FileTree) : tree.lookup [] = some .folder := rfl

theorem lookup_of_ne (tree : FileTree) (h : l ≠ []) : tree.lookup l = tree.entries.lookup l := by
  rw [lookup, if_neg (by simpa using h)]

/-- `after` has what `before` has and, at free locations of a kind, new files. -/
structure Grows (P : Location → Prop) (before after : FileTree) : Prop where
  here : after.here = before.here
  entries : ∃ new, after.entries = before.entries ++ new ∧ ∀ e ∈ new,
    P e.1 ∧ before.lookup e.1 = none ∧ ∃ content, e.2 = .file content

theorem Grows.refl (P : Location → Prop) (tree : FileTree) : Grows P tree tree :=
  ⟨rfl, [], by simp, by simp⟩

theorem Grows.mono {Q : Location → Prop} (h : Grows P before after) (hPQ : ∀ l, P l → Q l) :
    Grows Q before after := by
  obtain ⟨new, hnew, hfiles⟩ := h.entries
  refine ⟨h.here, new, hnew, fun e he => ?_⟩
  obtain ⟨hP, hrest⟩ := hfiles e he
  exact ⟨hPQ e.1 hP, hrest⟩

/-- An entry of the grown tree is an old one, or a new file at a free location. -/
theorem Grows.lookup_cases (h : Grows P before after) (l : Location) :
    after.lookup l = before.lookup l ∨
      P l ∧ before.lookup l = none ∧ ∃ content, after.lookup l = some (.file content) := by
  obtain ⟨new, hnew, hfiles⟩ := h.entries
  by_cases hl : l = []
  · subst hl; exact .inl rfl
  · rw [lookup_of_ne after hl, hnew, List.lookup_append, ← lookup_of_ne before hl]
    cases hb : before.lookup l with
    | some e => exact .inl rfl
    | none =>
      cases hn : new.lookup l with
      | none => exact .inl rfl
      | some e =>
        obtain ⟨as, bs, rfl, -⟩ := List.lookup_eq_some_iff.1 hn
        obtain ⟨hP, -, content, rfl⟩ := hfiles (l, e) (by simp)
        exact .inr ⟨hP, rfl, content, rfl⟩

/-- **What is there stays there.** -/
theorem Grows.lookup_some (h : Grows P before after) (hb : before.lookup l = some entry) :
    after.lookup l = some entry := by
  rcases h.lookup_cases l with heq | ⟨-, hnone, -⟩
  · rw [heq, hb]
  · rw [hb] at hnone; cases hnone

theorem Grows.trans {next : FileTree} (h : Grows P before after) (h' : Grows P after next) :
    Grows P before next := by
  obtain ⟨new, hnew, hfiles⟩ := h.entries
  obtain ⟨new', hnew', hfiles'⟩ := h'.entries
  refine ⟨h'.here.trans h.here, new ++ new', by rw [hnew', hnew, List.append_assoc], ?_⟩
  intro e he
  rcases List.mem_append.1 he with he | he
  · exact hfiles e he
  · obtain ⟨hP, hnone, hfile⟩ := hfiles' e he
    refine ⟨hP, ?_, hfile⟩
    -- a place that is free afterwards was free before
    cases hb : before.lookup e.1 with
    | none => rfl
    | some old => rw [h.lookup_some hb] at hnone; cases hnone

theorem Grows.add (hP : P location) (hfree : tree.lookup location = none) (content : ByteArray) :
    Grows P tree (tree.add location (.file content)) := by
  refine ⟨rfl, [(location, .file content)], rfl, ?_⟩
  intro e he
  obtain rfl := List.mem_singleton.1 he
  exact ⟨hP, hfree, content, rfl⟩

theorem lookup_add_self (hfree : tree.lookup location = none) :
    (tree.add location entry).lookup location = some entry := by
  have hl : location ≠ [] := by
    rintro rfl; rw [lookup_nil] at hfree; cases hfree
  rw [lookup_of_ne _ hl] at hfree ⊢
  rw [FileTree.add, List.lookup_append, hfree]
  simp

theorem lookup_add_of_ne (h : l ≠ location) :
    (tree.add location entry).lookup l = tree.lookup l := by
  by_cases hl : l = []
  · subst hl; rfl
  · have hne : (l == location) = false := by simpa using h
    rw [lookup_of_ne _ hl, lookup_of_ne _ hl, FileTree.add, List.lookup_append, List.lookup_cons,
      hne]
    simp

/-! ## Spots -/

/-- How what a path leads to may change when a tree grows. -/
inductive SpotGrows (P : Location → Prop) (after : FileTree) :
    Except FileCause Spot → Except FileCause Spot → Prop
  | same (r : Except FileCause Spot) : SpotGrows P after r r
  /-- The free place is taken by a new file. -/
  | filled {location : Location} (content : ByteArray) (h : P location)
    (hl : after.lookup location = some (.file content)) :
    SpotGrows P after (.ok (.free location)) (.ok (.taken location (.file content)))
  /-- A new file is where a folder was missing on the way. -/
  | blocked : SpotGrows P after (.error .notFound) (.error .notFolder)

theorem SpotGrows.of_taken {r : Except FileCause Spot}
    (h : SpotGrows P after (.ok (.taken l entry)) r) : r = .ok (.taken l entry) := by
  cases h; rfl

theorem SpotGrows.of_free {r : Except FileCause Spot} (h : SpotGrows P after (.ok (.free l)) r) :
    r = .ok (.free l) ∨ P l ∧ ∃ content, after.lookup l = some (.file content) ∧
      r = .ok (.taken l (.file content)) := by
  cases h with
  | same => exact .inl rfl
  | filled content hP hl => exact .inr ⟨hP, content, hl, rfl⟩

theorem SpotGrows.of_error {cause : FileCause} {r : Except FileCause Spot}
    (h : SpotGrows P after (.error cause) r) :
    r = .error cause ∨ cause = .notFound ∧ r = .error .notFolder := by
  cases h with
  | same => exact .inl rfl
  | blocked => exact .inr ⟨rfl, rfl⟩

theorem walkWith_grows (h : Grows P before after)
    {follow follow' : Location → List Text → Except FileCause Spot}
    (hf : ∀ folder segments,
      SpotGrows P after (follow folder segments) (follow' folder segments))
    (folder : Location) (segments : List Text) :
    SpotGrows P after (before.walkWith last follow folder segments)
      (after.walkWith last follow' folder segments) := by
  induction segments generalizing folder with
  | nil => exact .same _
  | cons segment rest ih =>
    unfold walkWith
    by_cases hstay : staysPut segment = true
    · rw [if_pos hstay, if_pos hstay]; exact ih folder
    rw [if_neg hstay, if_neg hstay]
    by_cases hup : segment = parentName
    · rw [if_pos hup, if_pos hup]; exact ih _
    rw [if_neg hup, if_neg hup]
    by_cases hwritten : last = .written ∧ rest = [[]]
    · rw [if_pos hwritten, if_pos hwritten]; exact .same _
    rw [if_neg hwritten, if_neg hwritten]
    by_cases hlong : maxName < Text.byteLength segment
    · rw [if_pos hlong, if_pos hlong]; exact .same _
    rw [if_neg hlong, if_neg hlong]
    simp only
    rcases h.lookup_cases (folder ++ [segment]) with heq | ⟨hP, hnone, content, hnew⟩
    · rw [heq]
      cases before.lookup (folder ++ [segment]) with
      | none => exact .same _
      | some entry =>
        cases entry with
        | folder => exact ih _
        | file content => exact .same _
        | link target =>
          simp only
          split
          · exact .same _
          · exact hf _ _
    · -- the only way through a place that was free
      rw [hnone, hnew]
      simp only
      by_cases hrest : rest.isEmpty = true
      · rw [if_pos hrest, if_pos hrest]; exact .filled content hP hnew
      · rw [if_neg hrest, if_neg hrest]; exact .blocked

theorem walk_grows (h : Grows P before after) (links : ℕ) (folder : Location)
    (segments : List Text) :
    SpotGrows P after (before.walk last links folder segments)
      (after.walk last links folder segments) := by
  induction links generalizing folder segments with
  | zero => exact walkWith_grows h (fun _ _ => .same _) folder segments
  | succ links ih => exact walkWith_grows h ih folder segments

/-- A path that is not refused as it is spelled. -/
structure IsFollowed (t : Text) : Prop where
  nul : Char.ofNat 0 ∉ t
  ne_nil : t ≠ []
  short : Text.byteLength t ≤ maxPath

theorem find_eq_walk (h : IsFollowed p.text) (tree : FileTree) (last : LastLink) :
    tree.find last p = tree.walk last maxLinks (start p.anchor tree.here) p.segments := by
  rw [find, findSpelled, if_neg (by simpa using h.nul), if_neg (by simpa using h.ne_nil),
    if_neg (Nat.not_lt.2 h.short)]

theorem find_of_not_isFollowed (h : ¬ IsFollowed p.text) :
    ∃ cause, ∀ (tree : FileTree) (last : LastLink), tree.find last p = .error cause := by
  unfold find findSpelled
  by_cases hnul : p.text.contains (Char.ofNat 0) = true
  · exact ⟨.nulCharacter, fun tree last => if_pos hnul⟩
  by_cases hempty : p.text.isEmpty = true
  · exact ⟨.notFound, fun tree last => by rw [if_neg hnul, if_pos hempty]⟩
  by_cases hlong : maxPath < Text.byteLength p.text
  · exact ⟨.nameTooLong, fun tree last => by rw [if_neg hnul, if_neg hempty, if_pos hlong]⟩
  · exact absurd ⟨by simpa using hnul, by simpa using hempty, Nat.not_lt.1 hlong⟩ h

/-- A path is refused as it is spelled, whatever the tree, or it is followed. -/
theorem find_eq_or (p : Path) :
    (∃ cause, ∀ (tree : FileTree) (last : LastLink), tree.find last p = .error cause) ∨
      ∀ (tree : FileTree) (last : LastLink),
        tree.find last p = tree.walk last maxLinks (start p.anchor tree.here) p.segments := by
  by_cases h : IsFollowed p.text
  · exact .inr (find_eq_walk h)
  · exact .inl (find_of_not_isFollowed h)

theorem isFollowed_of_find {s : Spot} (h : tree.find last p = .ok s) : IsFollowed p.text := by
  by_contra hnot
  obtain ⟨cause, hfind⟩ := find_of_not_isFollowed hnot
  rw [hfind] at h
  cases h

/-- **Where a path leads when a tree has grown.** -/
theorem find_grows (h : Grows P before after) (last : LastLink) (p : Path) :
    SpotGrows P after (before.find last p) (after.find last p) := by
  rcases find_eq_or p with ⟨cause, hfind⟩ | hfind
  · rw [hfind, hfind]; exact .same _
  · rw [hfind, hfind, h.here]; exact walk_grows h _ _ _

/-- What a way through a tree can lead to: an entry, a place without one, or an error that
the system gives. -/
inductive Leads (tree : FileTree) : Except FileCause Spot → Prop
  | taken (l : Location) (entry : Entry) : Leads tree (.ok (.taken l entry))
  | free {l : Location} (h : tree.lookup l = none) : Leads tree (.ok (.free l))
  | error {cause : FileCause} (h : cause.isSystem = true) : Leads tree (.error cause)

theorem walkWith_leads {follow : Location → List Text → Except FileCause Spot}
    (hf : ∀ folder segments, tree.Leads (follow folder segments)) (folder : Location)
    (segments : List Text) : tree.Leads (tree.walkWith last follow folder segments) := by
  induction segments generalizing folder with
  | nil => exact .taken _ _
  | cons segment rest ih =>
    unfold walkWith
    split
    · exact ih folder
    split
    · exact ih _
    split
    · exact .error rfl
    split
    · exact .error rfl
    simp only
    split
    · next hnone =>
      split
      · exact .free hnone
      · exact .error rfl
    · exact ih _
    · split
      · exact .taken _ _
      · exact .error rfl
    · split
      · exact .taken _ _
      · exact hf _ _

theorem walk_leads (links : ℕ) (folder : Location) (segments : List Text) :
    tree.Leads (tree.walk last links folder segments) := by
  induction links generalizing folder segments with
  | zero => exact walkWith_leads (fun _ _ => .error rfl) folder segments
  | succ links ih => exact walkWith_leads ih folder segments

/-- A free place has no entry. -/
theorem lookup_of_find (h : tree.find last p = .ok (.free l)) : tree.lookup l = none := by
  rcases find_eq_or p with ⟨cause, hfind⟩ | hfind
  · rw [hfind] at h; cases h
  · have hleads : tree.Leads (tree.walk last maxLinks (start p.anchor tree.here) p.segments) :=
      walk_leads _ _ _
    rw [← hfind, h] at hleads
    cases hleads with
    | free hnone => exact hnone

/-! ## Links -/

theorem walkWith_followed {kept followed : Location → List Text → Except FileCause Spot} {s : Spot}
    (hs : s.isLink = false)
    (hf : ∀ folder segments, kept folder segments = .ok s → followed folder segments = .ok s)
    {folder : Location} {segments : List Text}
    (h : tree.walkWith .kept kept folder segments = .ok s) :
    tree.walkWith .followed followed folder segments = .ok s := by
  induction segments generalizing folder with
  | nil => exact h
  | cons segment rest ih =>
    unfold walkWith at h ⊢
    by_cases hstay : staysPut segment = true
    · rw [if_pos hstay] at h ⊢; exact ih h
    rw [if_neg hstay] at h ⊢
    by_cases hup : segment = parentName
    · rw [if_pos hup] at h ⊢; exact ih h
    rw [if_neg hup, if_neg (by simp)] at h ⊢
    split at h
    · cases h
    next hlong =>
    rw [if_neg hlong]
    simp only at h ⊢
    cases hl : tree.lookup (folder ++ [segment]) with
    | none => rw [hl] at h; exact h
    | some entry =>
      rw [hl] at h
      cases entry with
      | folder => exact ih h
      | file content => exact h
      | link target =>
        simp only at h ⊢
        split at h
        · cases h; cases hs
        · rw [if_neg (by simp)]; exact hf _ _ h

/-- A path that does not end in a link leads to the same spot whether one is followed. -/
theorem find_followed {s : Spot} (hs : s.isLink = false) (h : tree.find .kept p = .ok s) :
    tree.find .followed p = .ok s := by
  have hwalk : ∀ links folder segments, tree.walk .kept links folder segments = .ok s →
      tree.walk .followed links folder segments = .ok s := by
    intro links
    induction links with
    | zero => intro folder segments hw; exact walkWith_followed hs (by simp) hw
    | succ links ih => intro folder segments hw; exact walkWith_followed hs ih hw
  rcases find_eq_or p with ⟨cause, hfind⟩ | hfind
  · rw [hfind] at h; cases h
  · rw [hfind] at h ⊢; exact hwalk _ _ _ h

/-- A tree without symbolic links. -/
def LinkFree (tree : FileTree) : Prop := ∀ e ∈ tree.entries, ∀ target, e.2 ≠ .link target

theorem LinkFree.lookup (h : tree.LinkFree) (target : Text) : tree.lookup l ≠ some (.link target) := by
  intro hl
  by_cases hnil : l = []
  · subst hnil; rw [lookup_nil] at hl; cases hl
  · rw [lookup_of_ne _ hnil] at hl
    obtain ⟨as, bs, heq, -⟩ := List.lookup_eq_some_iff.1 hl
    exact h (l, .link target) (by simp [heq]) target rfl

theorem LinkFree.grows (h : before.LinkFree) (hg : Grows P before after) : after.LinkFree := by
  obtain ⟨new, hnew, hfiles⟩ := hg.entries
  intro e he target
  rw [hnew, List.mem_append] at he
  rcases he with he | he
  · exact h e he target
  · obtain ⟨-, -, content, hc⟩ := hfiles e he
    rw [hc]; exact Entry.noConfusion

/-- Whether a segment names an entry. -/
def namesEntry (segment : Text) : Bool := !staysPut segment && segment != parentName

theorem namesEntry_iff {name : Text} :
    namesEntry name = true ↔ name ≠ [] ∧ name ≠ selfName ∧ name ≠ parentName := by
  simp only [namesEntry, staysPut, Bool.and_eq_true, Bool.not_eq_true', Bool.or_eq_false_iff,
    bne_iff_ne, List.isEmpty_eq_false_iff, beq_eq_false_iff_ne, and_assoc]

theorem walkWith_getLast? (h : tree.LinkFree)
    {follow : Location → List Text → Except FileCause Spot} {folder : Location}
    {init : List Text} {name : Text} {s : Spot} (hn : namesEntry name = true)
    (hw : tree.walkWith last follow folder (init ++ [name]) = .ok s) :
    s.location.getLast? = some name := by
  induction init generalizing folder with
  | nil =>
    simp only [namesEntry, Bool.and_eq_true, Bool.not_eq_true', bne_iff_ne] at hn
    rw [List.nil_append, walkWith, hn.1, if_neg Bool.false_ne_true, if_neg hn.2] at hw
    split at hw
    · cases hw
    split at hw
    · cases hw
    simp only at hw
    split at hw
    · cases hw; simp [Spot.location]
    · simp only [walkWith] at hw; cases hw; simp [Spot.location]
    · cases hw; simp [Spot.location]
    · next target hl => exact absurd hl (h.lookup target)
  | cons segment rest ih =>
    rw [List.cons_append, walkWith] at hw
    have hne : (rest ++ [name]).isEmpty = false := by simp
    split at hw
    · exact ih hw
    split at hw
    · exact ih hw
    split at hw
    · cases hw
    split at hw
    · cases hw
    simp only [hne] at hw
    split at hw
    · cases hw
    · exact ih hw
    · cases hw
    · next target hl => exact absurd hl (h.lookup target)

/-- **Without links a path ends where its last name says.** -/
theorem find_getLast? (h : tree.LinkFree) {init : List Text} {name : Text} {s : Spot}
    (hp : p.segments = init ++ [name]) (hn : namesEntry name = true)
    (hf : tree.find last p = .ok s) : s.location.getLast? = some name := by
  rcases find_eq_or p with ⟨cause, hfind⟩ | hfind
  · rw [hfind] at hf; cases hf
  · rw [hfind, hp] at hf; exact walkWith_getLast? h hn hf

/-! ## Questions -/

/-- A path that had nothing may have something afterwards; all else is answered as before. -/
theorem isPresent_grows (h : Grows P before after) (p : Path) :
    after.isPresent p = before.isPresent p ∨
      before.isPresent p = .ok false ∧ after.isPresent p = .ok true := by
  have hspot := find_grows h .followed p
  unfold isPresent
  cases hb : before.find .followed p with
  | ok s =>
    rw [hb] at hspot
    cases s with
    | taken l entry => rw [hspot.of_taken]; exact .inl rfl
    | free l =>
      rcases hspot.of_free with hsame | ⟨-, content, -, hnew⟩
      · rw [hsame]; exact .inl rfl
      · rw [hnew]; exact .inr ⟨rfl, rfl⟩
  | error cause =>
    rw [hb] at hspot
    rcases hspot.of_error with hsame | ⟨rfl, hnew⟩
    · rw [hsame]; exact .inl rfl
    · rw [hnew]; exact .inl rfl

theorem isPresent_true (h : Grows P before after) (hp : before.isPresent p = .ok true) :
    after.isPresent p = .ok true := by
  rcases isPresent_grows h p with hsame | ⟨-, hnew⟩
  · rw [hsame, hp]
  · exact hnew

theorem isFolder_iff {tree : FileTree} {p : Path} :
    tree.isFolder p = .ok true ↔ ∃ l, tree.find .followed p = .ok (.taken l .folder) := by
  constructor
  · intro h
    unfold isFolder at h
    split at h
    · next l entry hfind =>
      rw [Except.ok.injEq, beq_iff_eq] at h
      rw [hfind, h]
      exact ⟨l, rfl⟩
    · cases h
    · split at h <;> cases h
  · rintro ⟨l, hfind⟩
    rw [isFolder, hfind]
    rfl

/-- New files are no folders. -/
theorem isFolder_grows (h : Grows P before after) (p : Path) :
    after.isFolder p = before.isFolder p := by
  have hspot := find_grows h .followed p
  unfold isFolder
  cases hb : before.find .followed p with
  | ok s =>
    rw [hb] at hspot
    cases s with
    | taken l entry => rw [hspot.of_taken]
    | free l =>
      rcases hspot.of_free with hsame | ⟨-, content, -, hnew⟩
      · rw [hsame]
      · rw [hnew]; rfl
  | error cause =>
    rw [hb] at hspot
    rcases hspot.of_error with hsame | ⟨rfl, hnew⟩
    · rw [hsame]
    · rw [hnew]; rfl

/-- **Without links a file is read as before**, if no new file has its name; a file that was
missing may now be missing for another reason. -/
theorem read_grows (hl : before.LinkFree) (h : Grows P before after) {init : List Text}
    {name : Text} (hp : p.segments = init ++ [name]) (hn : namesEntry name = true)
    (hP : ∀ l : Location, l.getLast? = some name → ¬ P l) :
    after.read p = before.read p ∨
      before.read p = .error ⟨.notFound, p.text⟩ ∧ after.read p = .error ⟨.notFolder, p.text⟩ := by
  have hspot := find_grows h .followed p
  unfold read
  cases hb : before.find .followed p with
  | ok s =>
    rw [hb] at hspot
    cases s with
    | taken l entry => rw [hspot.of_taken]; exact .inl rfl
    | free l =>
      rcases hspot.of_free with hsame | ⟨hnew, -⟩
      · rw [hsame]; exact .inl rfl
      · exact absurd hnew (hP l (find_getLast? hl hp hn hb))
  | error cause =>
    rw [hb] at hspot
    rcases hspot.of_error with hsame | ⟨rfl, hnew⟩
    · rw [hsame]; exact .inl rfl
    · rw [hnew]; exact .inr ⟨rfl, rfl⟩

/-- What was not created is not created afterwards. -/
theorem create_grows (h : Grows P before after) {content : ByteArray} {e : FileError}
    (hc : before.create p content = .error e) :
    ∃ e', after.create p content = .error e' ∧ e'.cause.isSystem = e.cause.isSystem := by
  have hspot := find_grows h .kept p
  unfold create addNew at hc ⊢
  cases hb : before.find .kept p with
  | ok s =>
    rw [hb] at hspot hc
    cases s with
    | taken l entry => rw [hspot.of_taken]; cases hc; exact ⟨_, rfl, rfl⟩
    | free l => cases hc
  | error cause =>
    rw [hb] at hspot hc
    cases hc
    rcases hspot.of_error with hsame | ⟨rfl, hnew⟩
    · rw [hsame]; exact ⟨_, rfl, rfl⟩
    · rw [hnew]; exact ⟨_, rfl, rfl⟩

/-- **The names in a folder** are those of its entries. -/
theorem mem_namesAt_iff {name : Text} :
    name ∈ tree.namesAt l ↔ ∃ entry, tree.lookup (l ++ [name]) = some entry := by
  have hne : l ++ [name] ≠ [] := by simp
  rw [namesAt, Text.mem_sortedSet_iff, List.mem_filterMap, lookup_of_ne _ hne]
  constructor
  · rintro ⟨⟨location, entry⟩, he, hname⟩
    simp only at hname
    split at hname
    · next last hlast =>
      split at hname
      · next hfolder =>
        obtain rfl : last = name := Option.some.inj hname
        have hlocation : location = l ++ [last] := by
          rw [← hfolder, List.dropLast_append_getLast? last hlast]
        cases hl : tree.entries.lookup (l ++ [last]) with
        | some found => exact ⟨found, rfl⟩
        | none =>
          have hother := List.lookup_eq_none_iff.1 hl _ he
          rw [hlocation] at hother
          simp at hother
      · cases hname
    · cases hname
  · rintro ⟨entry, hl⟩
    obtain ⟨before, after, hentries, -⟩ := List.lookup_eq_some_iff.1 hl
    refine ⟨(l ++ [name], entry), by rw [hentries]; simp, ?_⟩
    simp

theorem namesAt_grows (h : Grows P before after) {q : Text → Bool}
    (hq : ∀ (l : Location) name, P l → l.getLast? = some name → q name = false)
    (folder : Location) : (after.namesAt folder).filter q = (before.namesAt folder).filter q := by
  obtain ⟨new, hnew, hfiles⟩ := h.entries
  unfold namesAt
  rw [hnew, List.filterMap_append]
  refine Text.filter_sortedSet_append fun name hname => ?_
  obtain ⟨⟨l, entry⟩, he, hl⟩ := List.mem_filterMap.1 hname
  simp only at hl
  split at hl
  · next last hlast =>
    split at hl
    · cases hl; exact hq l name (hfiles _ he).1 hlast
    · cases hl
  · cases hl

/-- **Names of a kind are listed as before**, if no new file has such a name. -/
theorem names_grows (h : Grows P before after) {q : Text → Bool}
    (hq : ∀ (l : Location) name, P l → l.getLast? = some name → q name = false) (p : Path) :
    (after.names p).filter q = (before.names p).filter q := by
  have hspot := find_grows h .followed p
  unfold names
  cases hb : before.find .followed p with
  | ok s =>
    rw [hb] at hspot
    cases s with
    | taken l entry =>
      rw [hspot.of_taken]
      cases entry with
      | folder => exact namesAt_grows h hq l
      | file content => rfl
      | link target => rfl
    | free l =>
      rcases hspot.of_free with hsame | ⟨-, content, -, hnew⟩
      · rw [hsame]
      · rw [hnew]
  | error cause =>
    rw [hb] at hspot
    rcases hspot.of_error with hsame | ⟨rfl, hnew⟩
    · rw [hsame]
    · rw [hnew]

/-! ## Extensions -/

/-- A location whose last name ends in an extension. -/
def EndsIn (extension : Text) (l : Location) : Prop := ∃ stem, l.getLast? = some (stem ++ extension)

/-- What can stand at the end of a name: no slash in it, and more than the double dot. -/
def IsExtension (extension : Text) : Prop := '/' ∉ extension ∧ 2 < extension.length

theorem IsExtension.namesEntry {extension : Text} (h : IsExtension extension) (stem : Text) :
    namesEntry (stem ++ extension) = true := by
  have hlen : 2 < (stem ++ extension).length := by
    rw [List.length_append]; have := h.2; omega
  have hnil : stem ++ extension ≠ [] := by rintro heq; rw [heq] at hlen; simp at hlen
  have hself : stem ++ extension ≠ selfName := by
    rintro heq; rw [heq] at hlen; simp [selfName] at hlen
  have hparent : stem ++ extension ≠ parentName := by
    rintro heq; rw [heq] at hlen; simp [parentName] at hlen
  exact namesEntry_iff.2 ⟨hnil, hself, hparent⟩

theorem segmentsOf_append {extension : Text} (h : IsExtension extension) (t : Text) :
    ∃ init stem, Path.segmentsOf (t ++ extension) = init ++ [stem ++ extension] := by
  obtain ⟨init, stem, hpieces⟩ :=
    Text.pieces_append_word (Text.beq_eq_false_of_not_mem h.1) t
  obtain ⟨hnil, hself, -⟩ := namesEntry_iff.1 (h.namesEntry stem)
  have hword : [stem ++ extension].filter (fun w => !w.isEmpty) = [stem ++ extension] :=
    List.filter_cons_of_pos (by simpa using hnil)
  refine ⟨(init.filter (!·.isEmpty)).filter (· ≠ ['.']), stem, ?_⟩
  rw [Path.segmentsOf, Text.words, hpieces, List.filter_append, List.filter_append,
    hword, List.filter_cons_of_pos (by simpa [selfName] using hself), List.filter_nil]

/-- **A path that is read from another one ends in the extension it is written with.** -/
theorem join_segments {extension : Text} (h : IsExtension extension) (p : Path) (t : Text) :
    ∃ init stem, (p.join (t ++ extension)).segments = init ++ [stem ++ extension] := by
  obtain ⟨init, stem, hsegments⟩ := segmentsOf_append h t
  unfold Path.join
  split
  · exact ⟨p.segments ++ init, stem, by simp [hsegments]⟩
  · exact ⟨init, stem, hsegments⟩

end FileTree

end RosBindings

import RosBindings.Path
import RosBindings.Proofs.Text

/-!
# Paths as they are written

A path that was read goes through names: segments that are not empty, not a single dot and have
no slash in them. Such a path is what its text says.

* `segmentsOf_join`: names with slashes between them are read back one by one.
* `ofText_text`: a path through names is read back from its text.
* `join_names`: names that are read from a path lead on from it, one after the other.
* `text_entry`: the text of an entry is that of its folder and its name.
-/

namespace RosBindings.Path

variable {p : Path} {t name : Text} {names : List Text}

/-- A segment that a path can go through. -/
structure IsName (segment : Text) : Prop where
  ne_nil : segment ≠ []
  ne_self : segment ≠ ['.']
  slash : '/' ∉ segment

/-- A path that goes through names only. -/
def IsNormal (p : Path) : Prop := ∀ segment ∈ p.segments, IsName segment

/-- The path of an entry in a folder. -/
def entry (p : Path) (name : Text) : Path := { p with segments := p.segments ++ [name] }

theorem entry_inj {a b : Text} : p.entry a = p.entry b ↔ a = b := by simp [entry]

theorem IsNormal.entry (h : p.IsNormal) (hn : IsName name) : (p.entry name).IsNormal :=
  List.forall_mem_append.2 ⟨h, List.forall_mem_singleton.2 hn⟩

/-! ## Segments -/

theorem isName_of_mem_segmentsOf {segment : Text} (h : segment ∈ segmentsOf t) :
    IsName segment := by
  obtain ⟨hword, hself⟩ := List.mem_filter.1 h
  refine ⟨?_, by simpa using hself, fun hslash => ?_⟩
  · simpa using (List.mem_filter.1 hword).2
  · simpa using (Text.mem_of_mem_words hword hslash).2

theorem isNormal_ofText (t : Text) : (ofText t).IsNormal := fun _ h => isName_of_mem_segmentsOf h

/-- **Names with slashes between them are read back.** -/
theorem segmentsOf_join (h : ∀ name ∈ names, IsName name) :
    segmentsOf (Text.join ['/'] names) = names := by
  have hwords : Text.words (· == '/') (Text.join ['/'] names) = names := by
    by_cases hne : names = []
    · rw [hne]
      rfl
    · rw [Text.words, Text.pieces_join (fun name hn => (h name hn).slash) hne,
        List.filter_eq_self]
      intro name hn
      simpa using (h name hn).ne_nil
  rw [segmentsOf, hwords, List.filter_eq_self]
  intro name hn
  simpa using (h name hn).ne_self

theorem segmentsOf_slash (t : Text) : segmentsOf ('/' :: t) = segmentsOf t := by
  rw [segmentsOf, Text.words_cons_sep rfl, segmentsOf]

theorem head?_join (h : ∀ name ∈ names, IsName name) :
    (Text.join ['/'] names).head? ≠ some '/' := by
  rcases names with _ | ⟨name, names⟩
  · simp [Text.join]
  · obtain ⟨hne, -, hslash⟩ := h name List.mem_cons_self
    obtain ⟨c, name, rfl⟩ := List.exists_cons_of_ne_nil hne
    have hfirst : (Text.join ['/'] ((c :: name) :: names)).head? = some c := by
      rcases names with _ | ⟨next, names⟩
      · simp [Text.join]
      · rw [Text.join, List.intercalate_cons_cons]
        rfl
    rw [hfirst]
    rintro ⟨⟩
    exact hslash List.mem_cons_self

/-! ## Starting points -/

theorem anchorOf_of_head? (h : t.head? ≠ some '/') : anchorOf t = .here := by
  unfold anchorOf
  split <;> simp_all

theorem anchorOf_slash (h : t.head? ≠ some '/') : anchorOf ('/' :: t) = .root := by
  rcases t with _ | ⟨c, t⟩
  · rfl
  · have hc : c ≠ '/' := by simpa using h
    unfold anchorOf
    split <;> simp_all

theorem anchorOf_two_slashes (h : t.head? ≠ some '/') :
    anchorOf ('/' :: '/' :: t) = .doubleRoot := by
  rcases t with _ | ⟨c, t⟩
  · rfl
  · have hc : c ≠ '/' := by simpa using h
    unfold anchorOf
    split
    · next heq => exact absurd (List.cons.inj (List.cons.inj (List.cons.inj heq).2).2).1 hc
    · rfl
    · next hnot heq => exact absurd (List.cons.inj heq).2.symm (hnot _)
    · next hnot => exact absurd rfl (hnot _)

/-! ## Whole paths -/

/-- **A path through names is what its text says.** -/
theorem ofText_text (h : p.IsNormal) : ofText p.text = p := by
  obtain ⟨anchor, segments⟩ := p
  have hread := segmentsOf_join h
  have hhead := head?_join h
  cases anchor with
  | here =>
    cases segments with
    | nil => rfl
    | cons segment segments =>
      rw [ofText, text]
      simp only [anchorText, List.nil_append]
      rw [anchorOf_of_head? hhead, hread]
  | root =>
    change ofText ('/' :: Text.join ['/'] segments) = _
    rw [ofText, anchorOf_slash hhead, segmentsOf_slash, hread]
  | doubleRoot =>
    change ofText ('/' :: '/' :: Text.join ['/'] segments) = _
    rw [ofText, anchorOf_two_slashes hhead, segmentsOf_slash, segmentsOf_slash, hread]

/-- **Names read from a path lead on from it.** -/
theorem join_names (p : Path) (h : ∀ name ∈ names, IsName name) :
    p.join (Text.join ['/'] names) = { p with segments := p.segments ++ names } := by
  rw [join, anchorOf_of_head? (head?_join h), segmentsOf_join h]

theorem join_name (p : Path) (h : IsName name) : p.join name = p.entry name := by
  have hjoin : p.join (Text.join ['/'] [name]) = p.entry name :=
    p.join_names (List.forall_mem_singleton.2 h)
  rwa [Text.join_singleton] at hjoin

/-- The text of an entry ends in its name. What is before is the text of its folder, with a slash
if there is none yet, and nothing in the folder that a path is read in. -/
theorem text_entry (p : Path) (name : Text) :
    ∃ before, (p.entry name).text = before ++ name ∧
      (p.text = ['.'] ∧ before = [] ∨ before = p.text ∨ before = p.text ++ ['/']) := by
  obtain ⟨anchor, segments⟩ := p
  by_cases hne : segments = []
  · subst hne
    cases anchor with
    | here => exact ⟨[], Text.join_singleton ['/'] name, .inl ⟨rfl, rfl⟩⟩
    | root => exact ⟨_, congrArg (['/'] ++ ·) (Text.join_singleton _ name), .inr (.inl rfl)⟩
    | doubleRoot =>
      exact ⟨_, congrArg (['/', '/'] ++ ·) (Text.join_singleton _ name), .inr (.inl rfl)⟩
  · have hjoin : Text.join ['/'] (segments ++ [name]) = Text.join ['/'] segments ++ '/' :: name := by
      rw [Text.join_append '/' hne (by simp), Text.join_singleton]
    refine ⟨_, ?_, .inr (.inr rfl)⟩
    simp [entry, text, hne, hjoin]

theorem text_ne_nil (h : p.IsNormal) : p.text ≠ [] := by
  obtain ⟨anchor, segments⟩ := p
  intro hnil
  cases anchor with
  | here =>
    cases segments with
    | nil => cases hnil
    | cons segment segments =>
      -- what is written would be read as a path without segments
      have hread := ofText_text h
      rw [hnil] at hread
      cases hread
  | root => cases hnil
  | doubleRoot => cases hnil

end RosBindings.Path

import Mathlib.Logic.Relation
import RosBindings.Proofs.Lines
import RosBindings.Proofs.Reading

/-!
# Layout does not matter

A blank line has one meaning: the first one above all fields ends the comment of the message.
Blanks around lines, on top and below the first field can be put in and taken out.

* `LayoutStep`: one such change.
* `readBody_blank`: a blank line among the fields and their comments is passed over.
* `splitPreamble_below`: a blank line below the first field does not move the end of the
  message comment.
* `parse_layout`: definitions that differ by their layout are read alike.
-/

namespace RosBindings

namespace Definition

/-- A change of layout. -/
inductive LayoutStep : List Text → List Text → Prop
  /-- Blanks are put around a line. -/
  | pad (before after : List Text) (left line right : Text) (hl : left.all Text.isBlank = true)
    (hr : right.all Text.isBlank = true) :
    LayoutStep (before ++ line :: after) (before ++ (left ++ line ++ right) :: after)
  /-- A line of blanks is put on top. -/
  | top (lines : List Text) (blank : Text) (h : blank.all Text.isBlank = true) :
    LayoutStep lines (blank :: lines)
  /-- A line of blanks is put somewhere below the first field. -/
  | below (before after : List Text) (blank : Text) (hf : before.any Line.isField = true)
    (h : blank.all Text.isBlank = true) : LayoutStep (before ++ after) (before ++ blank :: after)

variable {before : List Text} {line : Text}

/-! ## Blank lines -/

/-- A blank line is passed over, and the comments above it go on to the next field. -/
theorem readBody_blank (h : Line.isBlank line = true) (runtime : Text)
    (comments before after : List Text) :
    readBody runtime comments (before ++ line :: after) =
      readBody runtime comments (before ++ after) := by
  have hk : Line.kind line = .blank := eq_of_beq h
  induction before generalizing comments with
  | nil => rw [List.nil_append, List.nil_append, readBody, hk]
  | cons first before ih =>
    rw [List.cons_append, List.cons_append, readBody, readBody]
    cases Line.kind first with
    | blank => exact ih comments
    | comment => exact ih _
    | field => simp only [ih]

/-- The lines from the first field on are trimmed, and none of them is dropped. -/
theorem normalize_eq (hb : ∀ l ∈ before, Line.isField l = false) (hl : Line.isField line = true) :
    ∃ above : List Text, (∀ l ∈ above, Line.isField l = false) ∧
      ∀ after, Line.normalize (before ++ line :: after) =
        above ++ Text.trim line :: after.map Text.trim := by
  refine ⟨(before.map Text.trim).dropWhile List.isEmpty, fun l hl => ?_, fun after => ?_⟩
  · obtain ⟨l', hl', rfl⟩ := List.mem_map.1 ((List.dropWhile_suffix _).subset hl)
    rw [Line.isField_trim]
    exact hb l' hl'
  · have hne : (Text.trim line).isEmpty = false := by
      rw [List.isEmpty_eq_false_iff]
      intro hnil
      have hblank := Line.kind_eq_blank_iff.2 hnil
      rw [eq_of_beq hl] at hblank
      cases hblank
    rw [Line.normalize, List.map_append, List.map_cons, List.dropWhile_append]
    split
    · next hempty =>
      rw [List.dropWhile_cons_of_neg (by simp [hne]), List.isEmpty_iff.1 hempty, List.nil_append]
    · rfl

/-- A blank line below the first field has no part in where the preamble ends. -/
theorem splitPreamble_below {blank : Text} (hb : ∀ l ∈ before, Line.isField l = false)
    (hl : Line.isField line = true) (h : Line.isBlank blank = true) (rest after : List Text) :
    let spaced := splitPreamble (before ++ line :: (rest ++ blank :: after))
    let dense := splitPreamble (before ++ line :: (rest ++ after))
    spaced.1 = dense.1 ∧ ∀ runtime, readBody runtime [] spaced.2 = readBody runtime [] dense.2 := by
  have hk : Line.kind blank = .blank := eq_of_beq h
  have hany : ∀ q : Text → Bool, q blank = false →
      (rest ++ blank :: after).any q = (rest ++ after).any q := by
    intro q hq
    rw [List.any_append, List.any_cons, hq, Bool.false_or, List.any_append]
  have hread : ∀ runtime above, readBody runtime [] (above ++ line :: (rest ++ blank :: after)) =
      readBody runtime [] (above ++ line :: (rest ++ after)) := by
    intro runtime above
    have hblank := readBody_blank h runtime [] (above ++ line :: rest) after
    simpa only [List.append_assoc, List.cons_append] using hblank
  intro spaced dense
  simp only [spaced, dense, splitPreamble_eq hb hl]
  rw [hany Line.isField (by rw [Line.isField, hk]; rfl),
    hany Line.isComment (by rw [Line.isComment, hk]; rfl)]
  -- the same of the three cases applies to both
  split_ifs
  · exact ⟨rfl, fun runtime => hread runtime []⟩
  · exact ⟨rfl, fun runtime => hread runtime _⟩
  · exact ⟨rfl, fun runtime => hread runtime _⟩

theorem exists_first_field {lines : List Text} (h : lines.any Line.isField = true) :
    ∃ before line after, lines = before ++ line :: after ∧
      (∀ l ∈ before, Line.isField l = false) ∧ Line.isField line = true := by
  obtain ⟨line, hfind⟩ := Option.isSome_iff_exists.1 (List.find?_isSome.2 (List.any_eq_true.1 h))
  obtain ⟨hl, before, after, rfl, hb⟩ := List.find?_eq_some_iff_append.1 hfind
  exact ⟨before, line, after, rfl, fun l hl => by simpa using hb l hl, hl⟩

/-- **A blank line below the first field changes nothing.** -/
theorem parse_below {blank : Text} (hf : before.any Line.isField = true)
    (h : Line.isBlank blank = true) (after : List Text) (name runtime : Text) :
    parse (before ++ blank :: after) name runtime = parse (before ++ after) name runtime := by
  obtain ⟨above, line, rest, rfl, ha, hl⟩ := exists_first_field hf
  obtain ⟨top, htop, hnorm⟩ := normalize_eq ha hl
  have hspaced : Line.normalize (above ++ line :: rest ++ blank :: after) =
      top ++ Text.trim line :: (rest.map Text.trim ++ Text.trim blank :: after.map Text.trim) := by
    rw [List.append_assoc, List.cons_append, hnorm, List.map_append, List.map_cons]
  have hdense : Line.normalize (above ++ line :: rest ++ after) =
      top ++ Text.trim line :: (rest.map Text.trim ++ after.map Text.trim) := by
    rw [List.append_assoc, List.cons_append, hnorm, List.map_append]
  have hline : Line.isField (Text.trim line) = true := by rw [Line.isField_trim]; exact hl
  have hblank : Line.isBlank (Text.trim blank) = true := by rw [Line.isBlank_trim]; exact h
  obtain ⟨hpreamble, hbody⟩ := splitPreamble_below htop hline hblank (rest.map Text.trim)
    (after.map Text.trim)
  have hany : ∀ lines, (top ++ Text.trim line :: lines).any Line.isField = true := by
    intro lines
    rw [List.any_append, List.any_cons, hline, Bool.true_or, Bool.or_true]
  unfold parse
  simp only [hspaced, hdense, hany, hpreamble, hbody]

/-! ## Changes of layout -/

theorem parse_congr {lines lines' : List Text} (h : Line.normalize lines' = Line.normalize lines)
    (name runtime : Text) : parse lines' name runtime = parse lines name runtime := by
  unfold parse
  rw [h]

/-- **One change of layout leaves what is read.** -/
theorem LayoutStep.parse_eq {lines lines' : List Text} (h : LayoutStep lines lines')
    (name runtime : Text) : parse lines' name runtime = parse lines name runtime := by
  cases h with
  | pad before after left line right hl hr =>
    refine parse_congr ?_ name runtime
    rw [Line.normalize, Line.normalize, List.map_append, List.map_cons, List.append_assoc,
      Text.trim_blanks_append hl, Text.trim_append_blanks hr, List.map_append, List.map_cons]
  | top lines blank h =>
    refine parse_congr ?_ name runtime
    rw [Line.normalize, List.map_cons, Text.trim_eq_nil_iff.2 h, List.dropWhile_cons_of_pos rfl,
      Line.normalize]
  | below before after blank hf h =>
    exact parse_below hf (Line.isBlank_iff.2 h) after name runtime

/-- **Layout does not matter.** Blanks around a line, blank lines on top and blank lines below
the first field can be put in and taken out at will: the same definition is read, with all its
comments, or the same line is refused. -/
theorem parse_layout {lines lines' : List Text} (h : Relation.EqvGen LayoutStep lines lines')
    (name runtime : Text) : parse lines' name runtime = parse lines name runtime := by
  induction h with
  | rel lines lines' h => exact h.parse_eq name runtime
  | refl lines => rfl
  | symm lines lines' _ ih => exact ih.symm
  | trans lines between lines' _ _ ih₁ ih₂ => exact ih₂.trans ih₁

/-- Blanks on top, around a line, and between a field and the comment of the next one. -/
theorem parse_layout_spaced :
    let lines : List Text := ["# state", "", "int8 A=0", "# last", "int8 B=1"]
    let spaced : List Text := ["\t", "# state", "", "  int8 A=0 ", "", "# last", "int8 B=1"]
    Relation.EqvGen LayoutStep lines spaced ∧
      parse spaced "p/S" defaultRuntime = parse lines "p/S" defaultRuntime ∧
      ∃ d, parse lines "p/S" defaultRuntime = .ok d ∧ d.comment = "state" ∧
        d.enums.map (·.map Declaration.comment) = [([[], "last"] : List Text)] := by
  intro lines spaced
  have htop : LayoutStep lines ("\t" :: lines) := .top lines "\t" (by decide)
  have hpad : LayoutStep ("\t" :: lines)
      ["\t", "# state", "", "  int8 A=0 ", "# last", "int8 B=1"] :=
    .pad ["\t", "# state", ""] ["# last", "int8 B=1"] "  " "int8 A=0" " " (by decide) (by decide)
  have hbelow : LayoutStep ["\t", "# state", "", "  int8 A=0 ", "# last", "int8 B=1"] spaced :=
    .below ["\t", "# state", "", "  int8 A=0 "] ["# last", "int8 B=1"] "" (by decide +kernel)
      (by decide)
  have hsteps : Relation.EqvGen LayoutStep lines spaced :=
    .trans _ _ _ (.rel _ _ htop) (.trans _ _ _ (.rel _ _ hpad) (.rel _ _ hbelow))
  exact ⟨hsteps, parse_layout hsteps "p/S" defaultRuntime, _, rfl, by decide +kernel,
    by decide +kernel⟩

end Definition

end RosBindings

import RosBindings.Proofs.FieldLines
import RosBindings.Proofs.Grouping

/-!
# Printed definitions are read back

A definition is printed with its comment on top, behind a blank line, and the comment of
each declaration above it. Reading goes by the layout, and the layout says whom a comment
documents in all cases but one: several declarations where only the first has a comment.
There the comment of the first one is taken for the message.

* `printed`: the lines of a definition.
* `splitPreamble_uncommented`, `splitPreamble_commented`: what is taken for the message.
* `readBody_printed`: the declarations are read back.
* `parse_printed_iff`: a printed definition is read back exactly when it is not of the
  one layout that misleads.
-/

namespace RosBindings

open Definition Grouping

/-! ## Printing -/

/-- A declaration as it is printed. -/
structure PrintedDeclaration where
  typeToken : Text
  name : Text
  value : Text
  comment : Text
  deriving DecidableEq, Repr

/-- The lines of a comment. An empty comment has none. -/
def commentLines (comment : Text) : List Text :=
  if comment = [] then [] else (Text.rows comment).map ("# " ++ ·)

namespace PrintedDeclaration

/-- The line of a declaration. -/
def line (e : PrintedDeclaration) : Text :=
  e.typeToken ++ ' ' :: e.name ++ if e.value = [] then [] else '=' :: e.value

/-- A declaration below its comment. -/
def lines (e : PrintedDeclaration) : List Text := commentLines e.comment ++ [e.line]

end PrintedDeclaration

/-- The lines above the declarations: the comment of the message and a blank line. -/
def topLines (comment : Text) : List Text :=
  if comment = [] then [] else commentLines comment ++ [[]]

/-- The lines of a definition. -/
def printed (comment : Text) (entries : List PrintedDeclaration) : List Text :=
  topLines comment ++ entries.flatMap PrintedDeclaration.lines

/-- A comment without blanks at its ends and at the ends of its rows. -/
structure Tidy (comment : Text) : Prop where
  trim : Text.trim comment = comment
  rows : ∀ r ∈ Text.rows comment, Text.trim r = r

namespace PrintedDeclaration

/-- What a declaration has to fulfil to be printed on one line. -/
structure WellFormed (runtime : Text) (e : PrintedDeclaration) : Prop where
  type_ne : e.typeToken ≠ []
  type_chars : ∀ c ∈ e.typeToken, Text.isBlank c = false ∧ c ≠ '#'
  type_ok : ∃ type, FieldType.ofToken runtime e.typeToken = .ok type
  name_ne : e.name ≠ []
  name_chars : ∀ c ∈ e.name, Text.isBlank c = false ∧ c ≠ '=' ∧ c ≠ '#'
  value_chars : ∀ c ∈ e.value, Text.isBlank c = false ∧ c ≠ '=' ∧ c ≠ '#'
  value_fits : FieldLine.isInteger e.value = true →
    (FieldLine.dropPlus e.value).length ≤ Numeral.maxDigits
  comment : Tidy e.comment

/-- A constant is what a declaration says, its comment included. -/
structure Gives (runtime : Text) (e : PrintedDeclaration) (c : Constant) : Prop where
  typeToken : c.declaration.typeToken = e.typeToken
  name : c.declaration.name = e.name
  value : c.declaration.value = e.value
  comment : c.declaration.comment = e.comment
  type : FieldType.ofToken runtime e.typeToken = .ok c.declaration.type
  intValue : FieldLine.intValue ⟨e.typeToken, e.name, e.value, []⟩ = .ok c.intValue

end PrintedDeclaration

/-! ## Reading lines back -/

theorem kind_of_mem_commentLines {comment l : Text} (h : l ∈ commentLines comment) :
    Line.kind l = .comment := by
  unfold commentLines at h
  split at h
  · simp at h
  · obtain ⟨r, -, rfl⟩ := List.mem_map.1 h
    exact Line.kind_hash _

/-- The comments of printed lines are the rows of the comment. -/
theorem cleanComment_commentLines {comment : Text} (h : Tidy comment) :
    (commentLines comment).map Line.cleanComment =
      if comment = [] then [] else Text.rows comment := by
  unfold commentLines
  split
  · rfl
  · rw [List.map_map]
    conv_rhs => rw [← List.map_id (Text.rows comment)]
    apply List.map_congr_left
    intro r hr
    have hclean : Line.cleanComment ("# " ++ r) = Text.trim (' ' :: r) := Line.cleanComment_hash _
    rw [Function.comp_apply, hclean, Text.trim_cons_blank (by decide), h.rows r hr, id]

theorem join_commentLines {comment : Text} (h : Tidy comment) :
    Text.join ['\n'] ((commentLines comment).map Line.cleanComment) = comment := by
  rw [cleanComment_commentLines h]
  split
  · rename_i he; rw [he]; rfl
  · exact Text.unrows_rows comment

namespace PrintedDeclaration

variable {runtime : Text} {e : PrintedDeclaration}

theorem WellFormed.isBlank_head (h : e.WellFormed runtime) :
    ∃ c t, e.line = c :: t ∧ Text.isBlank c = false ∧ c ≠ '#' := by
  obtain ⟨c, t, ht⟩ := List.exists_cons_of_ne_nil h.type_ne
  have hc := h.type_chars c (by rw [ht]; exact List.mem_cons_self)
  exact ⟨c, _, by unfold line; rw [ht]; rfl, hc⟩

theorem WellFormed.kind_line (h : e.WellFormed runtime) : Line.kind e.line = .field := by
  obtain ⟨c, t, ht, hb, hh⟩ := h.isBlank_head
  unfold Line.kind
  rw [ht, Text.trim_cons hb]
  split
  · rename_i heq; simp at heq
  · rename_i heq; simp only [List.cons.injEq] at heq; exact absurd heq.1 hh
  · rfl

theorem WellFormed.last_word (h : e.WellFormed runtime) :
    ∃ t w, e.line = t ++ w ∧ w ≠ [] ∧ ∀ c ∈ w, Text.isBlank c = false := by
  by_cases hv : e.value = []
  · refine ⟨e.typeToken ++ [' '], e.name, ?_, h.name_ne, fun c hc => (h.name_chars c hc).1⟩
    simp [line, hv]
  · refine ⟨e.typeToken ++ ' ' :: e.name ++ ['='], e.value, ?_, hv,
      fun c hc => (h.value_chars c hc).1⟩
    simp [line, hv]

/-- The line of a declaration has no blanks at its ends. -/
theorem WellFormed.trim_line (h : e.WellFormed runtime) : Text.trim e.line = e.line := by
  apply Text.trim_eq_self
  · obtain ⟨c, t, ht, hb, -⟩ := h.isBlank_head
    intro d hd; rw [ht] at hd; cases hd; exact hb
  · obtain ⟨t, w, ht, hne, hw⟩ := h.last_word
    intro d hd
    rw [ht, List.getLast?_append_of_ne_nil _ hne] at hd
    exact hw d (List.mem_of_getLast? hd)

theorem WellFormed.fieldLine (h : e.WellFormed runtime) :
    FieldLine.WellFormed ⟨e.typeToken, e.name, e.value, []⟩ :=
  ⟨h.type_ne, h.type_chars, h.name_ne, h.name_chars, h.value_chars, rfl⟩

/-- The line of a declaration is read as its tokens, without a comment. -/
theorem WellFormed.parse_line (h : e.WellFormed runtime) :
    FieldLine.parse e.line = .ok ⟨e.typeToken, e.name, e.value, []⟩ := by
  have hnone : ([] : Text).head?.all (· == '#') = true := rfl
  have hparse := h.fieldLine.parse_plain hnone
  rw [List.append_nil] at hparse
  exact hparse

theorem WellFormed.intValue_ok (h : e.WellFormed runtime) :
    ∃ v, FieldLine.intValue ⟨e.typeToken, e.name, e.value, []⟩ = .ok v := by
  unfold FieldLine.intValue
  simp only
  split
  · rename_i hint
    have hfits := h.value_fits hint
    have hall : ∀ c ∈ FieldLine.dropPlus e.value, Text.isDecimal c = true := by
      unfold FieldLine.isInteger at hint
      simp only [Bool.and_eq_true, List.all_eq_true] at hint
      exact hint.2
    have htake : (FieldLine.dropPlus e.value).takeWhile Text.isDecimal = FieldLine.dropPlus e.value :=
      List.takeWhile_eq_self_iff.2 hall
    refine ⟨some (Numeral.value (FieldLine.dropPlus e.value)), ?_⟩
    unfold Numeral.read
    simp only [htake]
    rw [if_neg (by omega), if_neg (by omega)]
    rfl
  · exact ⟨none, rfl⟩

/-- **A declaration is read back**, with the comments that stand above it. -/
theorem WellFormed.readField (h : e.WellFormed runtime) :
    ∃ c, e.Gives runtime c ∧
      Definition.readField runtime ((commentLines e.comment).map Line.cleanComment) e.line = .ok c := by
  obtain ⟨type, ht⟩ := h.type_ok
  obtain ⟨v, hv⟩ := h.intValue_ok
  refine ⟨⟨⟨e.name, e.typeToken, type, e.value, e.comment⟩, v⟩, ⟨rfl, rfl, rfl, rfl, ht, hv⟩, ?_⟩
  unfold Definition.readField
  rw [h.parse_line]
  simp only [hv, ht, List.isEmpty_nil, if_true, List.append_nil]
  rw [join_commentLines h.comment, h.comment.trim]

end PrintedDeclaration

/-- Comments above a line are gathered. -/
theorem readBody_comments {runtime : Text} {above : List Text}
    (h : ∀ l ∈ above, Line.kind l = .comment) (comments below : List Text) :
    readBody runtime comments (above ++ below) =
      readBody runtime (comments ++ above.map Line.cleanComment) below := by
  induction above generalizing comments with
  | nil => simp
  | cons l above ih =>
    rw [List.cons_append, readBody]
    simp only [h l List.mem_cons_self]
    rw [ih (fun l' hl' => h l' (List.mem_cons_of_mem _ hl'))]
    simp

/-- The lines of a declaration, trimmed. -/
theorem map_trim_lines {runtime : Text} {e : PrintedDeclaration} (h : e.WellFormed runtime) :
    e.lines.map Text.trim = (commentLines e.comment).map Text.trim ++ [e.line] := by
  rw [PrintedDeclaration.lines, List.map_append, List.map_singleton, h.trim_line]

/-- **Printed declarations are read back, one after the other.** -/
theorem readBody_printed {runtime : Text} {entries : List PrintedDeclaration}
    (h : ∀ e ∈ entries, e.WellFormed runtime) :
    ∃ cs, List.Forall₂ (PrintedDeclaration.Gives runtime) entries cs ∧
      readBody runtime [] ((entries.flatMap PrintedDeclaration.lines).map Text.trim) = .ok cs := by
  induction entries with
  | nil => exact ⟨[], .nil, rfl⟩
  | cons e entries ih =>
    have he := h e List.mem_cons_self
    obtain ⟨c, hc, hr⟩ := he.readField
    obtain ⟨cs, hcs, hb⟩ := ih fun e' he' => h e' (List.mem_cons_of_mem _ he')
    refine ⟨c :: cs, .cons hc hcs, ?_⟩
    have hcomments : ∀ l ∈ (commentLines e.comment).map Text.trim, Line.kind l = .comment := by
      intro l hl
      obtain ⟨l', hl', rfl⟩ := List.mem_map.1 hl
      rw [Line.kind_trim]; exact kind_of_mem_commentLines hl'
    have hclean : ((commentLines e.comment).map Text.trim).map Line.cleanComment =
        (commentLines e.comment).map Line.cleanComment := by
      rw [List.map_map]; exact List.map_congr_left fun l _ => Line.cleanComment_trim l
    rw [List.flatMap_cons, List.map_append, map_trim_lines he, List.append_assoc,
      readBody_comments hcomments, List.nil_append, hclean, List.singleton_append, readBody]
    simp only [he.kind_line, hr, hb]
    rfl

/-! ## Whom the comments document -/

section Layout

variable {runtime comment : Text} {e : PrintedDeclaration} {entries : List PrintedDeclaration}

/-- The lines before the first declaration. -/
def linesAbove (comment : Text) (e : PrintedDeclaration) : List Text :=
  topLines comment ++ commentLines e.comment

theorem printed_cons (comment : Text) (e : PrintedDeclaration) (entries : List PrintedDeclaration) :
    printed comment (e :: entries) =
      linesAbove comment e ++ e.line :: entries.flatMap PrintedDeclaration.lines := by
  simp [printed, linesAbove, PrintedDeclaration.lines]

theorem kind_of_mem_topLines {l : Text} (h : l ∈ topLines comment) :
    Line.kind l = .comment ∨ l = [] := by
  unfold topLines at h
  split at h
  · simp at h
  · rcases List.mem_append.1 h with h | h
    · exact .inl (kind_of_mem_commentLines h)
    · exact .inr (by simpa using h)

theorem isField_linesAbove : ∀ l ∈ linesAbove comment e, Line.isField l = false := by
  intro l hl
  rcases List.mem_append.1 hl with hl | hl
  · rcases kind_of_mem_topLines hl with hk | rfl
    · rw [Line.isField, hk]; rfl
    · rfl
  · rw [Line.isField, kind_of_mem_commentLines hl]; rfl

theorem any_isField_lines (h : ∀ e ∈ entries, e.WellFormed runtime) :
    (entries.flatMap PrintedDeclaration.lines).any Line.isField = !entries.isEmpty := by
  cases entries with
  | nil => rfl
  | cons e entries =>
    have hk := (h e List.mem_cons_self).kind_line
    simp [PrintedDeclaration.lines, Line.isField, hk]

/-- A comment is among the lines exactly if some declaration has one. -/
theorem any_isComment_lines (h : ∀ e ∈ entries, e.WellFormed runtime) :
    (entries.flatMap PrintedDeclaration.lines).any Line.isComment = true ↔ ∃ e ∈ entries, e.comment ≠ [] := by
  simp only [List.any_eq_true, List.mem_flatMap]
  constructor
  · rintro ⟨l, ⟨e, he, hl⟩, hlc⟩
    refine ⟨e, he, fun hnil => ?_⟩
    have hle : l = e.line := by simpa [PrintedDeclaration.lines, commentLines, hnil] using hl
    rw [hle, Line.isComment, (h e he).kind_line] at hlc
    simp at hlc
  · rintro ⟨e, he, hne⟩
    obtain ⟨r, rs, hr⟩ := List.exists_cons_of_ne_nil (Text.rows_ne_nil e.comment)
    have hmem : ("# " ++ r : Text) ∈ commentLines e.comment := by simp [commentLines, hne, hr]
    refine ⟨_, ⟨e, he, List.mem_append_left _ hmem⟩, ?_⟩
    rw [Line.isComment, kind_of_mem_commentLines hmem]; rfl

/-- The first line is not blank, so that nothing is dropped at the top. -/
theorem normalize_printed (h : e.WellFormed runtime) :
    Line.normalize (printed comment (e :: entries)) =
      (linesAbove comment e).map Text.trim ++ e.line :: (entries.flatMap PrintedDeclaration.lines).map Text.trim := by
  have hmap : (printed comment (e :: entries)).map Text.trim =
      (linesAbove comment e).map Text.trim ++
        e.line :: (entries.flatMap PrintedDeclaration.lines).map Text.trim := by
    rw [printed_cons, List.map_append, List.map_cons, h.trim_line]
  have hcomment : ∀ c, c ≠ [] → ∃ r rs, commentLines c = ('#' :: r) :: rs := by
    intro c hc
    obtain ⟨r, rs, hr⟩ := List.exists_cons_of_ne_nil (Text.rows_ne_nil c)
    exact ⟨' ' :: r, _, by rw [commentLines, if_neg hc, hr]; rfl⟩
  have hhash : ∀ r : Text, (Text.trim ('#' :: r)).isEmpty = false := by
    intro r; rw [Text.trim_cons (by decide)]; rfl
  unfold Line.normalize
  rw [hmap]
  unfold linesAbove topLines
  by_cases hc : comment = []
  · by_cases he : e.comment = []
    · obtain ⟨c, t, ht, -⟩ := h.isBlank_head
      simp [hc, he, commentLines, ht]
    · obtain ⟨r, rs, hr⟩ := hcomment _ he
      simp [hc, hr, hhash]
  · obtain ⟨r, rs, hr⟩ := hcomment _ hc
    simp [hc, hr, hhash]

/-- Several declarations, and no comment between them. -/
def Uncommented (entries : List PrintedDeclaration) : Prop :=
  entries ≠ [] ∧ ∀ e ∈ entries, e.comment = []

/-- Where no comment comes after the first of several declarations, all comments above it
go to the message. -/
theorem splitPreamble_uncommented (he : e.WellFormed runtime)
    (h : ∀ e ∈ entries, e.WellFormed runtime) (hun : Uncommented entries) :
    splitPreamble (Line.normalize (printed comment (e :: entries))) =
      ((linesAbove comment e).map Text.trim,
        e.line :: (entries.flatMap PrintedDeclaration.lines).map Text.trim) := by
  rw [normalize_printed he, splitPreamble_eq _ (by rw [Line.isField, he.kind_line]; rfl), if_pos]
  · have hf := any_isField_lines h
    have hc : (entries.flatMap PrintedDeclaration.lines).any Line.isComment = false := by
      rw [Bool.eq_false_iff, ne_eq, any_isComment_lines h]
      rintro ⟨e', he', hne⟩; exact hne (hun.2 e' he')
    simp only [List.any_map, Function.comp_def, Line.isField_trim, Line.isComment_trim]
    rw [hf, hc]
    simpa using hun.1
  · intro l hl
    obtain ⟨l', hl', rfl⟩ := List.mem_map.1 hl
    rw [Line.isField_trim]; exact isField_linesAbove l' hl'

/-- Everywhere else the comment of the message ends at the blank line below it. -/
theorem splitPreamble_commented (he : e.WellFormed runtime)
    (h : ∀ e ∈ entries, e.WellFormed runtime) (hun : ¬ Uncommented entries) :
    splitPreamble (Line.normalize (printed comment (e :: entries))) =
      ((commentLines comment).map Text.trim,
        (if comment = [] then [] else [[]]) ++
          ((e :: entries).flatMap PrintedDeclaration.lines).map Text.trim) := by
  have hlines : (e :: entries).flatMap PrintedDeclaration.lines =
      commentLines e.comment ++ e.line :: entries.flatMap PrintedDeclaration.lines := by simp [PrintedDeclaration.lines]
  have hnb : ∀ {c : Text}, ∀ l ∈ (commentLines c).map Text.trim, (!Line.isBlank l) = true := by
    intro c l hl
    obtain ⟨l', hl', rfl⟩ := List.mem_map.1 hl
    rw [Line.isBlank_trim, Line.isBlank, kind_of_mem_commentLines hl']; rfl
  rw [normalize_printed he, splitPreamble_eq _ (by rw [Line.isField, he.kind_line]; rfl), if_neg]
  · rw [hlines, List.map_append, List.map_cons, he.trim_line]
    unfold linesAbove topLines
    by_cases hc : comment = []
    · -- without a comment of the message there is no blank line
      rw [if_pos hc, if_pos hc, List.nil_append, List.nil_append, hc, if_neg]
      · rfl
      · simp only [List.any_eq_true, not_exists, not_and, Bool.not_eq_true]
        intro l hl; simpa using hnb l hl
    · rw [if_neg hc, if_neg hc, if_pos]
      · simp only [List.map_append, List.map_cons, Text.trim_nil, List.append_assoc,
          List.singleton_append]
        rw [List.takeWhile_append_of_pos hnb, List.dropWhile_append_of_pos hnb,
          List.takeWhile_cons_of_neg (by decide), List.dropWhile_cons_of_neg (by decide)]
        simp
      · simp [Line.isBlank, Line.kind]
  · simp only [List.any_map, Function.comp_def, Line.isField_trim, Line.isComment_trim,
      any_isField_lines h, Bool.and_eq_true, Bool.not_eq_true', not_and, Bool.not_eq_false]
    intro hne
    rw [any_isComment_lines h]
    by_contra hno
    push Not at hno
    exact hun ⟨by simpa using hne, hno⟩
  · intro l hl
    obtain ⟨l', hl', rfl⟩ := List.mem_map.1 hl
    rw [Line.isField_trim]; exact isField_linesAbove l' hl'

theorem joinComments_map_trim (lines : List Text) :
    joinComments (lines.map Text.trim) = joinComments lines := by
  unfold joinComments
  rw [List.map_map]
  congr 2
  exact List.map_congr_left fun l _ => Line.cleanComment_trim l

theorem joinComments_commentLines (hc : Tidy comment) :
    joinComments (commentLines comment) = comment := by
  rw [joinComments, join_commentLines hc, hc.trim]

/-- The blank line below a comment adds nothing to it. -/
theorem joinComments_topLines (hc : Tidy comment) : joinComments (topLines comment) = comment := by
  unfold topLines
  split
  · rename_i h; rw [h]; rfl
  · rename_i h
    have hjoin : Text.join ['\n'] ((commentLines comment ++ [[]]).map Line.cleanComment) =
        comment ++ ['\n'] := by
      rw [List.map_append, cleanComment_commentLines hc, if_neg h, List.map_singleton]
      change Text.unrows (Text.rows comment ++ [[]]) = _
      rw [Text.unrows_append (Text.rows_ne_nil _) (by simp), Text.unrows_rows]
      rfl
    rw [joinComments, hjoin, Text.trim_append_blank (by decide), hc.trim]

/-- Comments of the first declaration that go to the message change its comment. -/
theorem joinComments_linesAbove (hc : Tidy comment) (he : Tidy e.comment) (hne : e.comment ≠ []) :
    joinComments (linesAbove comment e) ≠ comment := by
  unfold linesAbove topLines
  by_cases h : comment = []
  · rw [if_pos h, List.nil_append, joinComments_commentLines he, h]; exact hne
  · have hjoin : Text.join ['\n'] ((commentLines comment ++ [[]] ++ commentLines e.comment).map
        Line.cleanComment) = comment ++ '\n' :: '\n' :: e.comment := by
      rw [List.map_append, List.map_append, cleanComment_commentLines hc,
        cleanComment_commentLines he, if_neg h, if_neg hne, List.map_singleton, List.append_assoc]
      change Text.unrows (Text.rows comment ++ ([[]] ++ Text.rows e.comment)) = _
      rw [Text.unrows_append (Text.rows_ne_nil _) (by simp),
        Text.unrows_append (by simp) (Text.rows_ne_nil _), Text.unrows_rows, Text.unrows_rows]
      rfl
    have htrim : Text.trim (comment ++ '\n' :: '\n' :: e.comment) =
        comment ++ '\n' :: '\n' :: e.comment := by
      apply Text.trim_eq_self
      · obtain ⟨c, t, ht⟩ := List.exists_cons_of_ne_nil h
        intro d hd
        rw [ht] at hd
        cases hd
        exact Text.not_isBlank_head (by rw [← ht]; exact hc.trim)
      · intro d hd
        rw [List.getLast?_append_of_ne_nil _ (by simp), List.getLast?_cons_cons,
          List.getLast?_cons_of_ne_nil hne] at hd
        exact Text.not_isBlank_getLast he.trim hd
    -- the comment has become longer
    rw [if_neg h, joinComments, hjoin, htrim]
    intro heq
    have := congrArg List.length heq
    simp at this

end Layout

/-- **Printed definitions are read back, with one exception.** The comment of the message
and every declaration with its tokens, its type and its comment come back, sorted into
fields and enumerations as their values say, if and only if there is one declaration, or
the first one has no comment, or a later one has a comment. -/
theorem parse_printed_iff {runtime comment : Text} {entries : List PrintedDeclaration} (hne : entries ≠ [])
    (hc : Tidy comment) (hwf : ∀ e ∈ entries, e.WellFormed runtime) (name : Text) :
    (∃ d cs, parse (printed comment entries) name runtime = .ok d ∧ d.name = name ∧
      d.comment = comment ∧ List.Forall₂ (PrintedDeclaration.Gives runtime) entries cs ∧
      Arranged cs d.fields d.enums ∧
      (d.fields ++ d.enums.flatten).Perm (cs.map Constant.declaration)) ↔
    (entries.length = 1 ∨ (∀ e, entries.head? = some e → e.comment = []) ∨
      ∃ e ∈ entries.tail, e.comment ≠ []) := by
  obtain ⟨e, entries, rfl⟩ := List.exists_cons_of_ne_nil hne
  have he := hwf e List.mem_cons_self
  have hes : ∀ e' ∈ entries, e'.WellFormed runtime := fun e' h => hwf e' (List.mem_cons_of_mem _ h)
  have hany : (Line.normalize (printed comment (e :: entries))).any Line.isField = true := by
    rw [normalize_printed he, List.any_append, List.any_cons, Line.isField, he.kind_line]; simp
  constructor
  · rintro ⟨d, -, hd, -, hdc, -⟩
    by_contra hcon
    push Not at hcon
    obtain ⟨hlen, ⟨e', he', hne'⟩, hno⟩ := hcon
    cases he'
    have hun : Uncommented entries := ⟨fun h => hlen (by simp [h]), hno⟩
    -- then the message has taken the comment of the first declaration
    rcases parse_cases hd with ⟨hnil, -⟩ | ⟨cs, -, rfl⟩
    · rw [List.filter_eq_nil_iff] at hnil
      obtain ⟨l, hl, hlf⟩ := List.any_eq_true.1 hany
      exact hnil l hl hlf
    · simp only [splitPreamble_uncommented he hes hun, joinComments_map_trim] at hdc
      exact joinComments_linesAbove hc he.comment hne' hdc
  · intro hgood
    obtain ⟨cs, hgives, hbody⟩ := readBody_printed hwf
    refine ⟨⟨name, comment, (ofList cs).fields, (ofList cs).enums⟩, cs, ?_, rfl, rfl, hgives,
      arranged_ofList cs, perm_ofList cs⟩
    unfold parse
    simp only [hany, Bool.not_true, Bool.false_eq_true, if_false]
    by_cases hun : Uncommented entries
    · -- the lines above the first declaration all go to the message; none of them is its own
      have hfirst : e.comment = [] := by
        rcases hgood with h | h | ⟨e', he', hne'⟩
        · exact absurd (by simpa using h) hun.1
        · exact h e rfl
        · exact absurd (hun.2 e' he') hne'
      have hlines : e.line :: (entries.flatMap PrintedDeclaration.lines).map Text.trim =
          ((e :: entries).flatMap PrintedDeclaration.lines).map Text.trim := by
        simp [PrintedDeclaration.lines, commentLines, hfirst, he.trim_line]
      have habove : linesAbove comment e = topLines comment := by
        simp [linesAbove, commentLines, hfirst]
      rw [splitPreamble_uncommented he hes hun, hlines, habove]
      simp only [hbody, joinComments_map_trim, joinComments_topLines hc]
      rfl
    · -- the body starts with the blank line, which is skipped
      rw [splitPreamble_commented he hes hun]
      have hblank : readBody runtime [] ((if comment = [] then [] else [[]]) ++
          ((e :: entries).flatMap PrintedDeclaration.lines).map Text.trim) = .ok cs := by
        split
        · exact hbody
        · exact hbody
      simp only [hblank, joinComments_map_trim, joinComments_commentLines hc]
      rfl

/-- Comments with an empty row, with a hash sign of their own, and above the first of two
declarations. -/
theorem parse_printed_two :
    let comment : Text := "State\n\n#1 of it"
    let entries : List PrintedDeclaration := [⟨"int8", "A", "0", "first"⟩, ⟨"string<=9", "s", [], "#"⟩]
    entries ≠ [] ∧ Tidy comment ∧ (∀ e ∈ entries, e.WellFormed defaultRuntime) ∧
      ∃ d cs, parse (printed comment entries) "p/S" defaultRuntime = .ok d ∧ d.name = "p/S" ∧
        d.comment = comment ∧ List.Forall₂ (PrintedDeclaration.Gives defaultRuntime) entries cs ∧
        Arranged cs d.fields d.enums ∧
        (d.fields ++ d.enums.flatten).Perm (cs.map Constant.declaration) := by
  intro comment entries
  have hc : Tidy comment := ⟨by decide, by decide⟩
  have hwf : ∀ e ∈ entries, e.WellFormed defaultRuntime := by
    intro e he
    simp only [entries, List.mem_cons, List.not_mem_nil, or_false] at he
    rcases he with rfl | rfl
    · exact ⟨by decide, by simp; decide, ⟨_, rfl⟩, by decide, by simp; decide, by simp; decide,
        by decide, by decide, by decide⟩
    · exact ⟨by decide, by simp; decide, ⟨_, rfl⟩, by decide, by simp; decide, by simp,
        by decide, by decide, by decide⟩
  refine ⟨by simp [entries], hc, hwf, (parse_printed_iff (by simp [entries]) hc hwf "p/S").2 ?_⟩
  exact .inr (.inr ⟨⟨"string<=9", "s", [], "#"⟩, by simp [entries], by decide⟩)

end RosBindings

import RosBindings.Line
import RosBindings.Proofs.Text

/-!
# Laws of lines

What is read from a line depends neither on the blanks around it nor, comments aside, on
anything behind its first hash sign.

* `kind_trim`, `cleanComment_trim`: blanks around a line do not matter.
* `kind_eq_blank_iff`, `kind_eq_field_iff`: what kind a line is of.
* `kind_body`: a field line stays one without its comment.
* `tokens_trim_body`: the tokens of a line are those of what stands before its comment.
* `not_isBlank_of_parse`: tokens have no blanks.
-/

namespace RosBindings

namespace Line

variable {line t u : Text}

/-! ## Kinds -/

@[simp] theorem kind_trim (line : Text) : kind (Text.trim line) = kind line := by
  unfold kind; rw [Text.trim_trim]

@[simp] theorem isField_trim (line : Text) : isField (Text.trim line) = isField line := by
  unfold isField; rw [kind_trim]

@[simp] theorem isComment_trim (line : Text) : isComment (Text.trim line) = isComment line := by
  unfold isComment; rw [kind_trim]

@[simp] theorem isBlank_trim (line : Text) : isBlank (Text.trim line) = isBlank line := by
  unfold isBlank; rw [kind_trim]

@[simp] theorem cleanComment_trim (line : Text) :
    cleanComment (Text.trim line) = cleanComment line := by
  unfold cleanComment; rw [Text.trim_trim]

theorem kind_hash (t : Text) : kind ('#' :: t) = .comment := by
  unfold kind; rw [Text.trim_cons (by decide)]; rfl

/-- One hash sign and the blanks around the comment are taken off. -/
theorem cleanComment_hash (t : Text) : cleanComment ('#' :: t) = Text.trim t := by
  unfold cleanComment
  rw [Text.trim_cons (by decide), dropHash, Text.trim_trimStart]
  unfold Text.trim Text.trimBy
  rw [Text.trimStartBy_trimEndBy, Text.trimEndBy_trimEndBy]

theorem kind_eq_blank_iff : kind line = .blank ↔ Text.trim line = [] := by
  unfold kind
  split <;> simp_all

theorem isBlank_iff : isBlank line = true ↔ line.all Text.isBlank = true := by
  rw [isBlank, beq_iff_eq, kind_eq_blank_iff, Text.trim_eq_nil_iff]

theorem kind_eq_field_iff : kind line = .field ↔ ∃ c t, Text.trim line = c :: t ∧ c ≠ '#' := by
  unfold kind
  split
  · next h => simp [h]
  · next h => simp [h]
  · next hnil hhash =>
    simp only [true_iff]
    obtain ⟨c, t, ht⟩ := List.exists_cons_of_ne_nil hnil
    refine ⟨c, t, ht, ?_⟩
    rintro rfl
    exact hhash t ht

/-- A comment has a hash sign. -/
theorem kind_ne_comment (h : '#' ∉ line) : kind line ≠ .comment := by
  intro hk
  unfold kind at hk
  split at hk
  · cases hk
  · next t ht => exact h (Text.mem_of_mem_trim (ht ▸ List.mem_cons_self))
  · cases hk

/-! ## What stands before the comment -/

theorem hash_not_mem_of_blanks (h : t.all Text.isBlank = true) : '#' ∉ t := by
  intro hmem
  have hblank := List.all_eq_true.1 h '#' hmem
  have hhash : Text.isBlank '#' = false := by decide
  rw [hhash] at hblank
  cases hblank

theorem body_of_not_mem (h : '#' ∉ t) : body t = t := by
  unfold body
  rw [List.takeWhile_eq_self_iff]
  intro c hc
  have hne : c ≠ '#' := by rintro rfl; exact h hc
  simpa using hne

theorem body_of_head (h : t.head?.all (· == '#') = true) : body t = [] := by
  rcases t with _ | ⟨c, t⟩
  · rfl
  · have hc : c = '#' := by simpa using h
    exact List.takeWhile_cons_of_neg (by simp [hc])

theorem body_append_of_not_mem (h : '#' ∉ t) (u : Text) : body (t ++ u) = t ++ body u := by
  unfold body
  refine List.takeWhile_append_of_pos fun c hc => ?_
  have hne : c ≠ '#' := by rintro rfl; exact h hc
  simpa using hne

theorem hash_not_mem_body (line : Text) : '#' ∉ body line := by
  intro h
  simpa using List.mem_takeWhile_imp h

/-- Blanks behind a text are in its comment, or they are blanks behind what stands before it. -/
theorem body_append_blanks (hu : u.all Text.isBlank = true) (t : Text) :
    ∃ v : Text, v.all Text.isBlank = true ∧ body (t ++ u) = body t ++ v := by
  unfold body
  rw [List.takeWhile_append]
  split
  · next hlen =>
    have hall : t.takeWhile (· ≠ '#') = t := (List.takeWhile_prefix _).eq_of_length hlen
    refine ⟨u, hu, ?_⟩
    rw [hall]
    congr 1
    exact body_of_not_mem (hash_not_mem_of_blanks hu)
  · exact ⟨[], rfl, (List.append_nil _).symm⟩

/-- What stands before the comment of a line, and of the trimmed line, differ by blanks. -/
theorem body_eq_blanks_around (line : Text) :
    ∃ left right : Text, left.all Text.isBlank = true ∧ right.all Text.isBlank = true ∧
      body line = left ++ body (Text.trim line) ++ right := by
  obtain ⟨left, right, hl, hr, hline⟩ := Text.exists_blanks_around_trim line
  obtain ⟨right', hr', hbody⟩ := body_append_blanks hr (Text.trim line)
  refine ⟨left, right', hl, hr', ?_⟩
  conv_lhs => rw [hline]
  rw [List.append_assoc, body_append_of_not_mem (hash_not_mem_of_blanks hl), hbody,
    List.append_assoc]

theorem trim_body_trim (line : Text) :
    Text.trim (body (Text.trim line)) = Text.trim (body line) := by
  obtain ⟨left, right, hl, hr, hbody⟩ := body_eq_blanks_around line
  rw [hbody, Text.trim_append_blanks hr, Text.trim_blanks_append hl]

/-- A field line stays one without its comment. -/
theorem kind_body (h : kind line = .field) : kind (body line) = .field := by
  obtain ⟨c, t, ht, hc⟩ := kind_eq_field_iff.1 h
  have hblank : Text.isBlank c = false := Text.not_isBlank_head (by rw [← ht, Text.trim_trim])
  have hbody : body (c :: t) = c :: body t := List.takeWhile_cons_of_pos (by simpa using hc)
  have htrim : Text.trim (body line) = c :: Text.trimEndBy Text.isBlank (body t) := by
    rw [← trim_body_trim, ht, hbody, Text.trim_cons hblank]
  exact kind_eq_field_iff.2 ⟨c, _, htrim, hc⟩

theorem inlineComment_of_not_mem (h : '#' ∉ line) : inlineComment line = [] := by
  have hnil : line.dropWhile (· ≠ '#') = [] := by
    rw [List.dropWhile_eq_nil_iff]
    intro c hc
    have hne : c ≠ '#' := by rintro rfl; exact h hc
    simpa using hne
  unfold inlineComment
  rw [hnil]
  rfl

end Line

/-! ## Tokens -/

namespace FieldLine

variable {line line' left right t : Text}

/-- Blanks end the first word at the latest. -/
theorem firstWord_append_blanks (h : right.all Text.isBlank = true) :
    (t ++ right).takeWhile (!Text.isBlank ·) = t.takeWhile (!Text.isBlank ·) := by
  rw [List.takeWhile_append]
  split
  · next hlen =>
    rw [(List.takeWhile_prefix _).eq_of_length hlen, List.append_right_eq_self]
    cases right with
    | nil => rfl
    | cons b right =>
      rw [List.all_cons, Bool.and_eq_true] at h
      rw [List.takeWhile_cons_of_neg (by simp [h.1])]
  · rfl

/-- Blanks at the end part nothing behind the first word. -/
theorem laterWords_append_blanks (h : right.all Text.isBlank = true) :
    Text.words isSeparator ((t ++ right).dropWhile (!Text.isBlank ·)) =
      Text.words isSeparator (t.dropWhile (!Text.isBlank ·)) := by
  have hsep : ∀ c ∈ right, isSeparator c = true := by
    intro c hc
    rw [isSeparator, List.all_eq_true.1 h c hc, Bool.or_true]
  rw [List.dropWhile_append]
  split
  · next hempty =>
    have hrest : (right.dropWhile (!Text.isBlank ·)).all isSeparator = true := by
      rw [List.all_eq_true]
      exact fun c hc => hsep c ((List.dropWhile_suffix _).subset hc)
    rw [List.isEmpty_iff.1 hempty]
    exact Text.words_append_sep_end (t := []) hrest
  · exact Text.words_append_sep_end (List.all_eq_true.2 hsep)

/-- Blanks around what stands before the comment are in no token. -/
theorem tokens_congr (hl : left.all Text.isBlank = true) (hr : right.all Text.isBlank = true)
    (h : Line.body line = left ++ Line.body line' ++ right) : tokens line = tokens line' := by
  have hstart : Text.trimStart (Line.body line) =
      if (Text.trimStart (Line.body line')).isEmpty then []
      else Text.trimStart (Line.body line') ++ right := by
    unfold Text.trimStart Text.trimStartBy
    rw [h, List.append_assoc, List.dropWhile_append_of_pos (List.all_eq_true.1 hl),
      List.dropWhile_append, List.dropWhile_eq_nil_iff.2 (List.all_eq_true.1 hr)]
  unfold tokens
  rw [hstart]
  cases Text.trimStart (Line.body line') with
  | nil => rfl
  | cons c t => exact congrArg₂ _ (firstWord_append_blanks hr) (laterWords_append_blanks hr)

/-- **A comment has no part in the tokens of its line.** -/
theorem tokens_trim_body (line : Text) : tokens (Text.trim (Line.body line)) = tokens line := by
  have hno : '#' ∉ Text.trim (Line.body line) :=
    fun hmem => Line.hash_not_mem_body line (Text.mem_of_mem_trim hmem)
  obtain ⟨left, right, hl, hr, hbody⟩ := Text.exists_blanks_around_trim (Line.body line)
  refine (tokens_congr hl hr ?_).symm
  rw [Line.body_of_not_mem hno]
  exact hbody

/-- There is no blank in the type or in the name of a field. -/
theorem not_isBlank_of_parse {field : FieldLine} (h : parse line = .ok field) :
    (∀ c ∈ field.typeToken, Text.isBlank c = false) ∧
      ∀ c ∈ field.name, Text.isBlank c = false := by
  unfold parse tokens at h
  cases ht : Text.trimStart (Line.body line) with
  | nil => rw [ht] at h; cases h
  | cons c t =>
    rw [ht] at h
    simp only at h
    cases hw : Text.words isSeparator ((c :: t).dropWhile (!Text.isBlank ·)) with
    | nil => rw [hw] at h; cases h
    | cons name rest =>
      rw [hw] at h
      cases h
      refine ⟨fun x hx => by simpa using List.mem_takeWhile_imp hx, fun x hx => ?_⟩
      have hname : name ∈ Text.words isSeparator ((c :: t).dropWhile (!Text.isBlank ·)) :=
        hw ▸ List.mem_cons_self
      have hsep := (Text.mem_of_mem_words hname hx).2
      exact (Bool.or_eq_false_iff.1 hsep).2

end FieldLine

end RosBindings

import RosBindings.Proofs.Lines

/-!
# The grammar of field lines

A field line is blanks, a type, what follows the type, and a comment. The type ends at a blank;
behind it words are parted by blanks and equals signs, the first is the name, the second the
value, and more of them are passed over.

* `Spelled`: the parts of a line. `Declares`: the name and the value in what follows the type.
* `WellFormed`: what every field fulfils that is read from a line.
* `written`: the plainest line of a field; `WellFormed.parse_written` reads it back.
* `parse_spelled`: which lines are read, and what is read from them.
-/

namespace RosBindings.FieldLine

variable {line left type rest comment : Text} {f : FieldLine}

/-! ## The parts of a line -/

/-- A line with a first word: blanks, the word, what follows it, and a comment from the first
hash sign on. -/
structure Spelled (line left type rest comment : Text) : Prop where
  line_eq : line = left ++ type ++ rest ++ comment
  left_blank : left.all Text.isBlank = true
  type_ne : type ≠ []
  type_chars : ∀ c ∈ type, Text.isBlank c = false ∧ c ≠ '#'
  rest_head : rest.head?.all Text.isBlank = true
  rest_chars : '#' ∉ rest
  comment_head : comment.head?.all (· == '#') = true

namespace Spelled

theorem hash_not_mem (h : Spelled line left type rest comment) : '#' ∉ left ++ type ++ rest := by
  simp only [List.mem_append, not_or]
  refine ⟨⟨Line.hash_not_mem_of_blanks h.left_blank, fun hmem => ?_⟩, h.rest_chars⟩
  exact (h.type_chars '#' hmem).2 rfl

/-- What stands before the comment is all but the comment. -/
theorem body_eq (h : Spelled line left type rest comment) :
    Line.body line = left ++ type ++ rest := by
  rw [h.line_eq, Line.body_append_of_not_mem h.hash_not_mem, Line.body_of_head h.comment_head,
    List.append_nil]

/-- **The first word is the type**, and the words behind it are parted by all separators. -/
theorem tokens_eq (h : Spelled line left type rest comment) :
    tokens line = type :: Text.words isSeparator rest := by
  have hword : ∀ c ∈ type, (!Text.isBlank c) = true := fun c hc => by simp [(h.type_chars c hc).1]
  have hstart : Text.trimStart (Line.body line) = type ++ rest := by
    obtain ⟨c, t, ht⟩ := List.exists_cons_of_ne_nil h.type_ne
    have hc : Text.isBlank c = false := (h.type_chars c (ht ▸ List.mem_cons_self)).1
    unfold Text.trimStart Text.trimStartBy
    rw [h.body_eq, List.append_assoc,
      List.dropWhile_append_of_pos (List.all_eq_true.1 h.left_blank), ht, List.cons_append,
      List.dropWhile_cons_of_neg (by simp [hc])]
  -- the type ends where the rest begins, at a blank
  have hrest : rest.takeWhile (!Text.isBlank ·) = [] ∧ rest.dropWhile (!Text.isBlank ·) = rest := by
    rcases hr : rest with _ | ⟨b, r⟩
    · exact ⟨rfl, rfl⟩
    · have hb : Text.isBlank b = true := by simpa [hr] using h.rest_head
      exact ⟨List.takeWhile_cons_of_neg (by simp [hb]), List.dropWhile_cons_of_neg (by simp [hb])⟩
  have hne : type ++ rest ≠ [] := by simp [h.type_ne]
  unfold tokens
  rw [hstart]
  split
  · next hnil => exact absurd hnil hne
  · rw [List.takeWhile_append_of_pos hword, List.dropWhile_append_of_pos hword, hrest.1, hrest.2,
      List.append_nil]

theorem inlineComment_eq (h : Spelled line left type rest comment) :
    Line.inlineComment line = Line.cleanComment (comment.drop 1) := by
  have hbefore : ∀ c ∈ left ++ type ++ rest, decide (c ≠ '#') = true := by
    intro c hc
    have hne : c ≠ '#' := by rintro rfl; exact h.hash_not_mem hc
    simpa using hne
  have hcomment : comment.dropWhile (· ≠ '#') = comment := by
    rcases hcs : comment with _ | ⟨c, t⟩
    · rfl
    · have hc : c = '#' := by simpa [hcs] using h.comment_head
      exact List.dropWhile_cons_of_neg (by simp [hc])
  unfold Line.inlineComment
  rw [h.line_eq, List.dropWhile_append_of_pos hbefore, hcomment]

/-- What is read from a line with at least two words. -/
theorem parse_eq (h : Spelled line left type rest comment) {name : Text} {more : List Text}
    (hwords : Text.words isSeparator rest = name :: more) :
    parse line = .ok ⟨type, name, more.headD [], Line.cleanComment (comment.drop 1)⟩ := by
  unfold parse
  rw [h.tokens_eq, hwords, h.inlineComment_eq]

end Spelled

/-- A line with tokens has all these parts. -/
theorem exists_spelled (h : tokens line ≠ []) :
    ∃ left type rest comment, Spelled line left type rest comment := by
  obtain ⟨before, comment, rfl, hbefore, hcomment⟩ := Text.exists_until (· == '#') line
  obtain ⟨left, word, rfl, hleft, hword⟩ := Text.exists_until (!Text.isBlank ·) before
  obtain ⟨type, rest, rfl, htype, hrest⟩ := Text.exists_until Text.isBlank word
  have hblank : left.all Text.isBlank = true :=
    List.all_eq_true.2 fun c hc => by simpa using hleft c hc
  have hhash : '#' ∉ left ++ (type ++ rest) := fun hmem => by simpa using hbefore '#' hmem
  have hno := hhash
  simp only [List.mem_append, not_or] at hno
  refine ⟨left, type, rest, comment, by simp, hblank, ?_, fun c hc => ⟨htype c hc, ?_⟩, hrest,
    hno.2.2, hcomment⟩
  · -- without a type there would be blanks only before the comment, and no tokens
    rintro rfl
    obtain rfl : rest = [] := by
      rcases rest with _ | ⟨c, rest⟩
      · rfl
      · simp_all
    refine h ?_
    unfold tokens Text.trimStart Text.trimStartBy
    rw [Line.body_append_of_not_mem hhash, Line.body_of_head hcomment, List.append_nil,
      List.append_nil, List.append_nil, List.dropWhile_eq_nil_iff.2 (List.all_eq_true.1 hblank)]
  · rintro rfl
    exact hno.2.1 hc

/-- **A line that is read has a type and at least one word behind it.** -/
theorem exists_spelled_of_parse (h : parse line = .ok f) :
    ∃ left rest comment name more, Spelled line left f.typeToken rest comment ∧
      Text.words isSeparator rest = name :: more ∧
      f = ⟨f.typeToken, name, more.headD [], Line.cleanComment (comment.drop 1)⟩ := by
  have hne : tokens line ≠ [] := by
    intro hnil
    unfold parse at h
    rw [hnil] at h
    cases h
  obtain ⟨left, type, rest, comment, hs⟩ := exists_spelled hne
  cases hwords : Text.words isSeparator rest with
  | nil =>
    unfold parse at h
    rw [hs.tokens_eq, hwords] at h
    cases h
  | cons name more =>
    rw [hs.parse_eq hwords] at h
    obtain rfl := Except.ok.inj h
    exact ⟨left, rest, comment, name, more, hs, hwords, rfl⟩

/-! ## What follows the type -/

/-- A name and a value between separators. A value stands behind separators, more words behind
a value. -/
structure Declares (rest name value gap gap' surplus : Text) : Prop where
  rest_eq : rest = gap ++ name ++ gap' ++ value ++ surplus
  gap_sep : gap.all isSeparator = true
  gap'_sep : gap'.all isSeparator = true
  surplus_head : surplus.head?.all isSeparator = true
  parted : gap' = [] → value = [] ∧ surplus = []
  no_value : value = [] → surplus = []

/-- The name and the value are the first two words behind the type. -/
theorem exists_declares {name : Text} {more : List Text}
    (h : Text.words isSeparator rest = name :: more) :
    ∃ gap gap' surplus, Declares rest name (more.headD []) gap gap' surplus := by
  obtain ⟨gap, after, rfl, hgap, hafter, hmore⟩ := Text.words_eq_cons h
  rcases more with _ | ⟨value, more⟩
  · have hsep : after.all isSeparator = true := Text.words_eq_nil_iff.1 hmore
    exact ⟨gap, after, [], by simp, hgap, hsep, rfl, fun _ => ⟨rfl, rfl⟩, fun _ => rfl⟩
  · have hne : value ≠ [] := by
      have hmem : value ∈ Text.words isSeparator after := hmore ▸ List.mem_cons_self
      simpa using (List.mem_filter.1 hmem).2
    obtain ⟨gap', surplus, rfl, hgap', hsurplus, -⟩ := Text.words_eq_cons hmore
    refine ⟨gap, gap', surplus, by simp, hgap, hgap', hsurplus, fun hnil => ?_, ?_⟩
    · -- the name would go on in the value
      subst hnil
      obtain ⟨c, w, rfl⟩ := List.exists_cons_of_ne_nil hne
      have hc : isSeparator c = true := hafter
      have hmem : (c :: w) ∈ Text.words isSeparator ([] ++ (c :: w) ++ surplus) :=
        hmore ▸ List.mem_cons_self
      rw [(Text.mem_of_mem_words hmem List.mem_cons_self).2] at hc
      cases hc
    · exact fun hnil => absurd hnil hne

/-! ## Reading back -/

/-- What every field fulfils that is read from a line. -/
structure WellFormed (f : FieldLine) : Prop where
  type_ne : f.typeToken ≠ []
  type_chars : ∀ c ∈ f.typeToken, Text.isBlank c = false ∧ c ≠ '#'
  name_ne : f.name ≠ []
  name_chars : ∀ c ∈ f.name, Text.isBlank c = false ∧ c ≠ '=' ∧ c ≠ '#'
  value_chars : ∀ c ∈ f.value, Text.isBlank c = false ∧ c ≠ '=' ∧ c ≠ '#'
  comment_trimmed : Text.trim f.inlineComment = f.inlineComment

/-- The plainest line of a field, with its comment behind two hash signs. -/
def written (f : FieldLine) : Text :=
  f.typeToken ++ ' ' :: f.name ++ (if f.value = [] then [] else '=' :: f.value) ++ "##"
    ++ f.inlineComment

theorem isSeparator_eq_false_iff {c : Char} :
    isSeparator c = false ↔ Text.isBlank c = false ∧ c ≠ '=' := by
  unfold isSeparator
  rw [Bool.or_eq_false_iff, beq_eq_false_iff_ne]
  exact and_comm

/-- A word behind the type has neither separators nor hash signs. -/
theorem Spelled.of_mem_words (h : Spelled line left type rest comment) {w : Text}
    (hw : w ∈ Text.words isSeparator rest) :
    w ≠ [] ∧ ∀ c ∈ w, Text.isBlank c = false ∧ c ≠ '=' ∧ c ≠ '#' := by
  refine ⟨by simpa using (List.mem_filter.1 hw).2, fun c hc => ?_⟩
  obtain ⟨hmem, hsep⟩ := Text.mem_of_mem_words hw hc
  obtain ⟨hblank, hequals⟩ := isSeparator_eq_false_iff.1 hsep
  refine ⟨hblank, hequals, ?_⟩
  rintro rfl
  exact h.rest_chars hmem

theorem Spelled.wellFormed (h : Spelled line left type rest comment) {name : Text}
    {more : List Text} (hwords : Text.words isSeparator rest = name :: more) :
    WellFormed ⟨type, name, more.headD [], Line.cleanComment (comment.drop 1)⟩ := by
  obtain ⟨hname, hchars⟩ := h.of_mem_words (hwords ▸ List.mem_cons_self : name ∈ _)
  refine ⟨h.type_ne, h.type_chars, hname, hchars, ?_, Text.trim_trim _⟩
  rcases more with _ | ⟨value, more⟩
  · simp
  · exact (h.of_mem_words (hwords ▸ List.mem_cons_of_mem _ List.mem_cons_self : value ∈ _)).2

namespace WellFormed

/-- A line without superfluous separators, in front of any comment. -/
theorem spelled_plain (h : f.WellFormed) (hc : comment.head?.all (· == '#') = true) :
    Spelled (f.typeToken ++ ' ' :: f.name ++ (if f.value = [] then [] else '=' :: f.value)
      ++ comment) [] f.typeToken (' ' :: f.name ++ if f.value = [] then [] else '=' :: f.value)
      comment where
  line_eq := by simp
  left_blank := rfl
  type_ne := h.type_ne
  type_chars := h.type_chars
  rest_head := rfl
  rest_chars := by
    have hname : '#' ∉ f.name := fun hmem => (h.name_chars '#' hmem).2.2 rfl
    have hvalue : '#' ∉ f.value := fun hmem => (h.value_chars '#' hmem).2.2 rfl
    split <;> simp [hname, hvalue]
  comment_head := hc

theorem words_plain (h : f.WellFormed) :
    Text.words isSeparator (' ' :: f.name ++ if f.value = [] then [] else '=' :: f.value) =
      f.name :: if f.value = [] then [] else [f.value] := by
  have hname : ∀ c ∈ f.name, isSeparator c = false := by
    intro c hc
    exact isSeparator_eq_false_iff.2 ⟨(h.name_chars c hc).1, (h.name_chars c hc).2.1⟩
  have hvalue : ∀ c ∈ f.value, isSeparator c = false := by
    intro c hc
    exact isSeparator_eq_false_iff.2 ⟨(h.value_chars c hc).1, (h.value_chars c hc).2.1⟩
  rw [List.cons_append, Text.words_cons_sep (by decide)]
  split
  · rw [List.append_nil, Text.words_of_word hname h.name_ne]
  · next hne =>
    rw [Text.words_append_sep hname h.name_ne (by decide), Text.words_of_word hvalue hne]

theorem parse_plain (h : f.WellFormed) (hc : comment.head?.all (· == '#') = true) :
    parse (f.typeToken ++ ' ' :: f.name ++ (if f.value = [] then [] else '=' :: f.value)
      ++ comment) = .ok ⟨f.typeToken, f.name, f.value, Line.cleanComment (comment.drop 1)⟩ := by
  have hvalue : (if f.value = [] then [] else [f.value]).headD [] = f.value := by
    split
    · next hnil => rw [hnil]; rfl
    · rfl
  rw [(h.spelled_plain hc).parse_eq h.words_plain, hvalue]

/-- **A well-formed field is read back from its plainest line.** -/
theorem parse_written (h : f.WellFormed) : parse f.written = .ok f := by
  have hcomment : Line.cleanComment (("##" ++ f.inlineComment).drop 1) = f.inlineComment :=
    (Line.cleanComment_hash f.inlineComment).trans h.comment_trimmed
  have hhead : ("##" ++ f.inlineComment).head?.all (· == '#') = true := rfl
  have hparse := h.parse_plain hhead
  rw [hcomment, ← List.append_assoc] at hparse
  exact hparse

end WellFormed

/-- **The grammar of field lines.** A line is read exactly if there is a first word before its
comment, and behind that word something that is neither blank nor an equals sign. What is read
from it are this word, the next two words, and the comment without blanks around it. It is
well-formed, and its plainest line is read as the same field. -/
theorem parse_spelled (line : Text) :
    ((∃ f, parse line = .ok f) ↔
      ∃ left type rest comment, Spelled line left type rest comment ∧
        ∃ c ∈ rest, Text.isBlank c = false ∧ c ≠ '=') ∧
    ∀ f, parse line = .ok f → f.WellFormed ∧ parse f.written = .ok f ∧
      ∃ left rest comment gap gap' surplus, Spelled line left f.typeToken rest comment ∧
        Declares rest f.name f.value gap gap' surplus ∧
        f.inlineComment = Line.cleanComment (comment.drop 1) := by
  refine ⟨⟨?_, ?_⟩, fun f hf => ?_⟩
  · rintro ⟨f, hf⟩
    obtain ⟨left, rest, comment, name, more, hs, hwords, -⟩ := exists_spelled_of_parse hf
    have hname : name ∈ Text.words isSeparator rest := hwords ▸ List.mem_cons_self
    obtain ⟨c, hc⟩ := List.exists_mem_of_ne_nil name (hs.of_mem_words hname).1
    obtain ⟨hmem, hsep⟩ := Text.mem_of_mem_words hname hc
    exact ⟨left, f.typeToken, rest, comment, hs, c, hmem, isSeparator_eq_false_iff.1 hsep⟩
  · rintro ⟨left, type, rest, comment, hs, c, hc, hsep⟩
    obtain ⟨w, hw, -⟩ := Text.exists_word_of_mem hc (isSeparator_eq_false_iff.2 hsep)
    obtain ⟨name, more, hwords⟩ := List.exists_cons_of_ne_nil (List.ne_nil_of_mem hw)
    exact ⟨_, hs.parse_eq hwords⟩
  · obtain ⟨left, rest, comment, name, more, hs, hwords, hfield⟩ := exists_spelled_of_parse hf
    have hformed : f.WellFormed := by
      rw [hfield]
      exact hs.wellFormed hwords
    obtain ⟨gap, gap', surplus, hdeclares⟩ := exists_declares hwords
    refine ⟨hformed, hformed.parse_written, left, rest, comment, gap, gap', surplus, hs, ?_, ?_⟩
    · rw [hfield]
      exact hdeclares
    · rw [hfield]

/-- A bound in the type, signs and blanks around the name, and hash signs in the comment. -/
theorem parse_spelled_bound :
    let line : Text := "\tstring<=10 = name  ==v +7 ## see #1 "
    let f : FieldLine := ⟨"string<=10", "name", "v", "see #1"⟩
    parse line = .ok f ∧ f.written = "string<=10 name=v##see #1" ∧ parse f.written = .ok f := by
  intro line f
  have hf : parse line = .ok f := by decide +kernel
  exact ⟨hf, by decide +kernel, ((parse_spelled line).2 f hf).2.1⟩

end RosBindings.FieldLine

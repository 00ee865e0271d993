import Mathlib.Data.List.Forall2
import Mathlib.Data.List.TakeWhile
import RosBindings.Definition

/-!
# What the lines of a definition become

The message comment is taken from the lines above the first field, so every field line is
left to the second pass, and each gives one constant.

* `Reads`: a constant is what a field line says.
* `splitPreamble_spec`: the preamble and the body are the lines.
* `readBody_reads`: the constants of a body are what its field lines say, in order.
* `parse_cases`: what a definition that was read consists of.
-/

namespace RosBindings

open Definition

/-- A constant is what a field line says, its comment aside. -/
structure Reads (runtime line : Text) (c : Constant) : Prop where
  tokens : ∃ field : FieldLine, FieldLine.parse line = .ok field ∧
    field.intValue = .ok c.intValue ∧ c.declaration.name = field.name ∧
    c.declaration.typeToken = field.typeToken ∧ c.declaration.value = field.value
  type : FieldType.ofToken runtime c.declaration.typeToken = .ok c.declaration.type

theorem intValue_eq_some {field : FieldLine} {n : ℕ} (h : field.intValue = .ok (some n)) :
    n = Numeral.value (FieldLine.dropPlus field.value) := by
  unfold FieldLine.intValue at h
  split at h
  · cases hr : Numeral.read (FieldLine.dropPlus field.value) with
    | error e => rw [hr] at h; simp [Except.map] at h
    | ok m =>
      rw [hr] at h
      simp only [Except.map, Except.ok.injEq, Option.some.injEq] at h
      unfold Numeral.read at hr
      simp only at hr
      split at hr
      · simp at hr
      · split at hr
        · simp at hr
        · simp only [Except.ok.injEq] at hr; rw [← h, ← hr]
  · simp at h

/-- The ordinal of a constant is the number that its line gives. -/
theorem Reads.ordinal {runtime line : Text} {c : Constant} (h : Reads runtime line c) {n : ℕ}
    (hn : c.intValue = some n) : c.declaration.ordinal = n := by
  obtain ⟨field, -, hi, -, -, hv⟩ := h.tokens
  rw [hn] at hi
  rw [Declaration.ordinal, hv, intValue_eq_some hi]

/-- A line that is read as a field becomes what it says. -/
theorem readField_reads {runtime : Text} {comments : List Text} {line : Text} {c : Constant}
    (h : readField runtime comments line = .ok c) : Reads runtime line c := by
  unfold readField at h
  cases hf : FieldLine.parse line with
  | error e => rw [hf] at h; simp at h
  | ok field =>
    rw [hf] at h
    simp only at h
    cases hi : field.intValue with
    | error e => rw [hi] at h; simp at h
    | ok value =>
      rw [hi] at h
      simp only at h
      cases ht : FieldType.ofToken runtime field.typeToken with
      | error e => rw [ht] at h; simp at h
      | ok type =>
        rw [ht] at h
        simp only [Except.ok.injEq] at h
        subst h
        exact ⟨⟨field, hf, hi, rfl, rfl, rfl⟩, ht⟩

/-- **The constants of a body are what its field lines say**, one for each, in order. -/
theorem readBody_reads {runtime : Text} {lines : List Text} :
    ∀ {comments : List Text} {cs : List Constant}, readBody runtime comments lines = .ok cs →
      List.Forall₂ (Reads runtime) (lines.filter Line.isField) cs := by
  induction lines with
  | nil => intro comments cs h; simp only [readBody, Except.ok.injEq] at h; subst h; exact .nil
  | cons line lines ih =>
    intro comments cs h
    unfold readBody at h
    cases hk : Line.kind line with
    | blank =>
      rw [hk] at h
      rw [List.filter_cons_of_neg (by simp [Line.isField, hk])]
      exact ih h
    | comment =>
      rw [hk] at h
      rw [List.filter_cons_of_neg (by simp [Line.isField, hk])]
      exact ih h
    | field =>
      rw [hk] at h
      rw [List.filter_cons_of_pos (by simp [Line.isField, hk])]
      simp only at h
      cases hr : readField runtime comments line with
      | error e => rw [hr] at h; simp at h
      | ok c =>
        rw [hr] at h
        simp only at h
        cases hb : readBody runtime [] lines with
        | error e => rw [hb] at h; simp [Except.map] at h
        | ok rest =>
          rw [hb] at h
          simp only [Except.map, Except.ok.injEq] at h
          subst h
          exact .cons (readField_reads hr) (ih hb)

/-- The preamble holds no field, and the body is what follows it. -/
theorem splitPreamble_spec (lines : List Text) :
    (splitPreamble lines).1 ++ (splitPreamble lines).2 = lines ∧
      ∀ line ∈ (splitPreamble lines).1, Line.isField line = false := by
  have hbefore : ∀ line ∈ lines.takeWhile (!Line.isField ·), Line.isField line = false := by
    intro line hl; simpa using List.mem_takeWhile_imp hl
  unfold splitPreamble
  simp only
  split
  · exact ⟨List.takeWhile_append_dropWhile, hbefore⟩
  set before := lines.takeWhile (!Line.isField ·)
  set block := before.takeWhile (!Line.isBlank ·)
  split
  · have hpre : block <+: lines := (List.takeWhile_prefix _).trans (List.takeWhile_prefix _)
    refine ⟨?_, fun line hl => hbefore line ((List.takeWhile_prefix _).subset hl)⟩
    have htake : lines.take block.length = block := (List.prefix_iff_eq_take.1 hpre).symm
    conv_rhs => rw [← List.take_append_drop block.length lines, htake]
  · exact ⟨rfl, by simp⟩

/-- **Where the preamble ends**, by the lines before and after the first field. If more
fields but no comments come after it, all lines before it document the message; else those
before a blank line do. -/
theorem splitPreamble_eq {before after : List Text} {line : Text}
    (hb : ∀ l ∈ before, Line.isField l = false) (hl : Line.isField line = true) :
    splitPreamble (before ++ line :: after) =
      if after.any Line.isField && !after.any Line.isComment then (before, line :: after)
      else if before.any Line.isBlank then
        (before.takeWhile (!Line.isBlank ·), before.dropWhile (!Line.isBlank ·) ++ line :: after)
      else ([], before ++ line :: after) := by
  have hno : ∀ l ∈ before, (!Line.isField l) = true := by intro l h; rw [hb l h]; rfl
  have htake : (before ++ line :: after).takeWhile (!Line.isField ·) = before := by
    rw [List.takeWhile_append_of_pos hno, List.takeWhile_cons_of_neg (by simp [hl]), List.append_nil]
  have hdrop : (before ++ line :: after).dropWhile (!Line.isField ·) = line :: after := by
    rw [List.dropWhile_append_of_pos hno, List.dropWhile_cons_of_neg (by simp [hl])]
  have hcomment : Line.isComment line = false := by
    unfold Line.isField at hl
    rw [Line.isComment, eq_of_beq hl]; rfl
  have hfilter : before.filter Line.isField = [] := by
    rw [List.filter_eq_nil_iff]; intro l h; simp [hb l h]
  have hseveral : decide (1 < ((before ++ line :: after).filter Line.isField).length) =
      after.any Line.isField := by
    rw [List.filter_append, hfilter, List.filter_cons_of_pos hl, Bool.eq_iff_iff]
    simp [List.length_pos_iff, List.filter_eq_nil_iff]
  have hrest : (before ++ line :: after).drop (before.takeWhile (!Line.isBlank ·)).length =
      before.dropWhile (!Line.isBlank ·) ++ line :: after := by
    have hsplit : before.takeWhile (!Line.isBlank ·) ++ before.dropWhile (!Line.isBlank ·) = before :=
      List.takeWhile_append_dropWhile
    calc (before ++ line :: after).drop (before.takeWhile (!Line.isBlank ·)).length
        = (before.takeWhile (!Line.isBlank ·) ++ (before.dropWhile (!Line.isBlank ·) ++ line :: after)).drop
            (before.takeWhile (!Line.isBlank ·)).length := by rw [← List.append_assoc, hsplit]
      _ = before.dropWhile (!Line.isBlank ·) ++ line :: after := List.drop_left
  unfold splitPreamble
  simp only [htake, hdrop, hseveral, List.any_cons, hcomment, Bool.false_or]
  congr 1
  by_cases hblank : before.any Line.isBlank = true
  · rw [if_pos hblank, if_pos, hrest]
    · -- a block as long as all the lines before the field would hold no blank line
      by_contra hlen
      have hpre : before.takeWhile (!Line.isBlank ·) <+: before := List.takeWhile_prefix _
      have heq := hpre.eq_of_length_le (by omega)
      rw [List.takeWhile_eq_self_iff] at heq
      obtain ⟨l, hl, hlb⟩ := List.any_eq_true.1 hblank
      simpa [hlb] using heq l hl
  · rw [if_neg hblank, if_neg]
    rw [List.takeWhile_eq_self_iff.2]
    · exact lt_irrefl _
    · intro l hl
      simp only [List.any_eq_true, not_exists, not_and, Bool.not_eq_true] at hblank
      rw [hblank l hl]; rfl

theorem filter_isField_splitPreamble (lines : List Text) :
    (splitPreamble lines).2.filter Line.isField = lines.filter Line.isField := by
  obtain ⟨happ, hno⟩ := splitPreamble_spec lines
  have hnil : (splitPreamble lines).1.filter Line.isField = [] := by
    rw [List.filter_eq_nil_iff]; intro line hl; simp [hno line hl]
  conv_rhs => rw [← happ, List.filter_append, hnil, List.nil_append]

/-- Lines that are dropped at the top are no fields. -/
theorem filter_isField_normalize (rawLines : List Text) :
    (Line.normalize rawLines).filter Line.isField =
      (rawLines.map Text.trim).filter Line.isField := by
  unfold Line.normalize
  -- only empty lines are dropped, and these are no fields
  induction rawLines.map Text.trim with
  | nil => rfl
  | cons line lines ih =>
    cases line with
    | nil =>
      rw [List.dropWhile_cons_of_pos (by rfl), ih]
      rw [List.filter_cons_of_neg (by decide)]
    | cons c cs => rw [List.dropWhile_cons_of_neg (by simp)]

/-- **What a definition that was read consists of.** Without a field it is empty. Else the
preamble gives its comment, and the constants of the body are sorted. -/
theorem parse_cases {rawLines : List Text} {name runtime : Text} {d : Definition}
    (h : parse rawLines name runtime = .ok d) :
    ((Line.normalize rawLines).filter Line.isField = [] ∧ d = { name }) ∨
      ∃ cs, readBody runtime [] (splitPreamble (Line.normalize rawLines)).2 = .ok cs ∧
        d = ⟨name, joinComments (splitPreamble (Line.normalize rawLines)).1,
          (Grouping.ofList cs).fields, (Grouping.ofList cs).enums⟩ := by
  unfold parse at h
  simp only at h
  split at h
  · rename_i hno
    refine .inl ⟨?_, by simpa using h.symm⟩
    rw [List.filter_eq_nil_iff]
    simpa using hno
  · right
    cases hb : readBody runtime [] (splitPreamble (Line.normalize rawLines)).2 with
    | error e => rw [hb] at h; simp [Except.map] at h
    | ok cs => rw [hb] at h; exact ⟨cs, rfl, by simpa [Except.map] using h.symm⟩

/-- The fields and enumerations of a definition come from what its field lines say. -/
theorem parse_reads {rawLines : List Text} {name runtime : Text} {d : Definition}
    (h : parse rawLines name runtime = .ok d) :
    ∃ cs : List Constant,
      List.Forall₂ (Reads runtime) ((rawLines.map Text.trim).filter Line.isField) cs ∧
      d.fields = (Grouping.ofList cs).fields ∧ d.enums = (Grouping.ofList cs).enums := by
  rw [← filter_isField_normalize]
  rcases parse_cases h with ⟨hno, rfl⟩ | ⟨cs, hb, rfl⟩
  · rw [hno]; exact ⟨[], .nil, rfl, rfl⟩
  · rw [← filter_isField_splitPreamble]
    exact ⟨cs, readBody_reads hb, rfl, rfl⟩

end RosBindings

import RosBindings.Failure
import RosBindings.Proofs.Reading

/-!
# Definitions that are refused

A definition is refused for the first of its field lines that is. A run passes over a line
that is not spelled as it should, but never over a number that is spelled out and not read.

* `Numeral.IsBad`: digits that are too many, or not all of a decimal system.
* `FieldType.Brackets`, `FieldType.ofToken_of_open`: all that can happen to a token with an
  opening bracket.
* `FieldLine.BadNumber`: a field whose value or array size is such a number.
* `Definition.parse_error_iff`: the refusal of a definition is that of its first refused
  field line.
* `Definition.parse_unpassable_iff`: no run passes over a definition exactly if that line has
  a bad number.
-/

namespace RosBindings

/-! ## Numbers -/

namespace Numeral

/-- Digits that are not read: more than there may be, or one outside the decimal systems. -/
def IsBad (t : Text) : Prop :=
  maxDigits < (t.takeWhile Text.isDecimal).length ∨ ∃ c ∈ t, Text.isDecimal c = false

/-- Of decimal digits only too many are not read. -/
theorem isBad_iff_of_decimal {t : Text} (h : ∀ c ∈ t, Text.isDecimal c = true) :
    IsBad t ↔ maxDigits < t.length := by
  rw [IsBad, List.takeWhile_eq_self_iff.2 h]
  refine or_iff_left ?_
  rintro ⟨c, hc, hno⟩
  rw [h c hc] at hno
  cases hno

theorem takeWhile_length_lt_iff (t : Text) :
    (t.takeWhile Text.isDecimal).length < t.length ↔ ∃ c ∈ t, Text.isDecimal c = false := by
  have hpre : t.takeWhile Text.isDecimal <+: t := List.takeWhile_prefix _
  constructor
  · intro hlt
    by_contra hall
    simp only [not_exists, not_and, Bool.not_eq_false] at hall
    rw [List.takeWhile_eq_self_iff.2 hall] at hlt
    exact lt_irrefl _ hlt
  · rintro ⟨c, hc, hno⟩
    refine lt_of_le_of_ne hpre.length_le fun hlen => ?_
    have hself := List.takeWhile_eq_self_iff.1 (hpre.eq_of_length hlen)
    rw [hself c hc] at hno
    cases hno

theorem read_eq_ok_iff {t : Text} {n : ℕ} : read t = .ok n ↔ ¬ IsBad t ∧ n = value t := by
  unfold read IsBad
  rw [← takeWhile_length_lt_iff]
  simp only
  split
  · next hlong => simp [hlong]
  · next hlong =>
    split
    · next hlt => simp [hlt]
    · next hlt => simp [hlong, hlt, eq_comm]

theorem exists_error_iff (t : Text) : (∃ e, read t = .error e) ↔ IsBad t := by
  cases h : read t with
  | ok n => simp [(read_eq_ok_iff.1 h).1]
  | error e =>
    have hbad : IsBad t := by
      by_contra hgood
      have hok : read t = .ok (value t) := read_eq_ok_iff.2 ⟨hgood, rfl⟩
      rw [h] at hok
      cases hok
    simp [hbad]

end Numeral

/-- A value is an integer that is not read when it has too many digits. -/
theorem FieldLine.exists_intValue_error_iff (f : FieldLine) :
    (∃ e, f.intValue = .error e) ↔
      isInteger f.value = true ∧ Numeral.maxDigits < (dropPlus f.value).length := by
  unfold intValue
  by_cases hi : isInteger f.value = true
  · have hall : ∀ c ∈ dropPlus f.value, Text.isDecimal c = true := by
      simp only [isInteger, Bool.and_eq_true, List.all_eq_true] at hi
      exact hi.2
    rw [if_pos hi, ← Numeral.isBad_iff_of_decimal hall, ← Numeral.exists_error_iff]
    cases Numeral.read (dropPlus f.value) with
    | error e => simp [Except.map, hi]
    | ok n => simp [Except.map]
  · rw [if_neg hi]
    simp [hi]

/-! ## Array sizes -/

namespace FieldType

variable {runtime token element bound : Text}

/-- **The brackets a token ends in**: they stand behind an element that has none, and the first
closing one is the last character. -/
structure Brackets (token element bound : Text) : Prop where
  spelled : token = element ++ '[' :: (bound ++ [']'])
  ne_nil : element ≠ []
  element : ∀ c ∈ element, c ≠ '[' ∧ c ≠ ']'
  bound : ']' ∉ bound

theorem splitMarker?_eq_some_iff :
    splitMarker? token = some (element, bound) ↔ Brackets token element bound := by
  constructor
  · intro h
    unfold splitMarker? at h
    simp only at h
    split at h
    case h_2 => cases h
    rename_i c cs rest helement hrest
    split at h
    case h_2 => cases h
    rename_i close hclose
    simp only [Option.some.injEq, Prod.mk.injEq] at h
    obtain ⟨rfl, rfl⟩ := h
    have hsplit := List.takeWhile_append_dropWhile (p := fun c => !(c == '[' || c == ']'))
      (l := token)
    have hbound := List.takeWhile_append_dropWhile (p := fun c : Char => decide (c ≠ ']'))
      (l := rest)
    -- what follows the bound is one character, and it ends the bound
    have hcloses : close = ']' := by
      have hhead := List.head?_dropWhile_not (p := fun c : Char => decide (c ≠ ']')) (l := rest)
      rw [hclose] at hhead
      simpa using hhead
    refine ⟨?_, ?_, fun c hc => ?_, fun hmem => ?_⟩
    · rw [hclose, hcloses] at hbound
      rw [hbound, ← hrest, hsplit]
    · rw [helement]; simp
    · simpa using List.mem_takeWhile_imp hc
    · simpa using List.mem_takeWhile_imp hmem
  · rintro ⟨rfl, hne, helement, hbound⟩
    have hpos : ∀ c ∈ element, (!(c == '[' || c == ']')) = true := by
      intro c hc
      simpa using helement c hc
    have hnot : ∀ c ∈ bound, decide (c ≠ ']') = true := by
      intro c hc
      simp only [decide_eq_true_eq]
      rintro rfl
      exact hbound hc
    unfold splitMarker?
    simp only
    rw [List.takeWhile_append_of_pos hpos, List.dropWhile_append_of_pos hpos,
      List.takeWhile_cons_of_neg (by simp), List.dropWhile_cons_of_neg (by simp), List.append_nil]
    obtain ⟨c, cs, rfl⟩ := List.exists_cons_of_ne_nil hne
    simp only
    rw [List.takeWhile_append_of_pos hnot, List.dropWhile_append_of_pos hnot,
      List.takeWhile_cons_of_neg (by simp), List.dropWhile_cons_of_neg (by simp), List.append_nil]

namespace Brackets

variable {element' bound' : Text}

theorem unique (h : Brackets token element bound) (h' : Brackets token element' bound') :
    element = element' ∧ bound = bound' := by
  have heq : some (element, bound) = some (element', bound') :=
    (splitMarker?_eq_some_iff.2 h).symm.trans (splitMarker?_eq_some_iff.2 h')
  exact Prod.mk.inj (Option.some.inj heq)

theorem open_mem (h : Brackets token element bound) : '[' ∈ token := by
  rw [h.spelled]
  exact List.mem_append_right _ List.mem_cons_self

end Brackets

/-- A token with a size that is made of digits and not read. -/
def BadSize (token : Text) : Prop :=
  ∃ element bound, token = element ++ '[' :: (bound ++ [']']) ∧ element ≠ [] ∧
    (∀ c ∈ element, c ≠ '[' ∧ c ≠ ']') ∧ ']' ∉ bound ∧
    (∀ c ∈ Text.trim bound, Text.isDigitLike c = true) ∧ Numeral.IsBad (Text.trim bound)

theorem boundArity_size_iff (token bound : Text) :
    (∃ e, boundArity token bound = .error (.size e)) ↔
      (∀ c ∈ Text.trim bound, Text.isDigitLike c = true) ∧ Numeral.IsBad (Text.trim bound) := by
  unfold boundArity
  generalize Text.trim bound = size
  by_cases hfree : (size.isEmpty || ("<=" : Text).isPrefixOf size) = true
  · -- a free bound has no digits, or does not start with one
    rw [if_pos hfree]
    simp only [reduceCtorEq, exists_false, false_iff, not_and]
    intro hdigits hbad
    rcases (Bool.or_eq_true _ _).mp hfree with hempty | hle
    · rw [List.isEmpty_iff.1 hempty] at hbad
      simp [Numeral.IsBad] at hbad
    · obtain ⟨rest, rfl⟩ := List.isPrefixOf_iff_prefix.1 hle
      exact absurd (hdigits '<' (by simp)) (by decide)
  · rw [if_neg hfree]
    by_cases hdigits : size.all Text.isDigitLike = true
    · rw [if_neg (by simp [hdigits]), ← Numeral.exists_error_iff]
      rw [List.all_eq_true] at hdigits
      cases Numeral.read size with
      | error e => simpa using hdigits
      | ok n => simp
    · rw [if_pos (by simpa using hdigits)]
      rw [List.all_eq_true] at hdigits
      simp [hdigits]

/-- The size of an array is bad exactly if its bound is. -/
theorem Brackets.badSize_iff (h : Brackets token element bound) :
    BadSize token ↔ ∃ e, boundArity token bound = .error (.size e) := by
  rw [boundArity_size_iff]
  constructor
  · rintro ⟨element', bound', hspelled, hne, helement, hbound, hbad⟩
    obtain ⟨-, rfl⟩ := h.unique ⟨hspelled, hne, helement, hbound⟩
    exact hbad
  · intro hbad
    exact ⟨element, bound, h.spelled, h.ne_nil, h.element, h.bound, hbad⟩

/-- Without an opening bracket a token is an element. -/
theorem ofToken_of_not_open (hopen : '[' ∉ Text.trim token) (runtime : Text) :
    ofToken runtime token = .ok (ofElement runtime (Text.trim token) .single) := by
  rw [ofToken, splitArray, if_pos (by simpa using hopen)]
  rfl

/-- **All that can happen to a token with an opening bracket**: it is refused because it does not
end in brackets, or what stands between them decides. -/
theorem ofToken_of_open (hopen : '[' ∈ Text.trim token) (runtime : Text) :
    (∀ element bound, ¬ Brackets (Text.trim token) element bound) ∧
      ofToken runtime token = .error (.malformedArray (Text.trim token)) ∨
    ∃ element bound, Brackets (Text.trim token) element bound ∧
      ofToken runtime token =
        (boundArity (Text.trim token) bound).map (ofElement runtime element) := by
  unfold ofToken splitArray
  generalize Text.trim token = token at hopen ⊢
  rw [if_neg (by simpa using hopen)]
  cases hmarker : splitMarker? token with
  | none =>
    refine .inl ⟨fun element bound h => ?_, rfl⟩
    rw [splitMarker?_eq_some_iff.2 h] at hmarker
    cases hmarker
  | some marker =>
    obtain ⟨element, bound⟩ := marker
    refine .inr ⟨element, bound, splitMarker?_eq_some_iff.1 hmarker, ?_⟩
    simp only
    cases boundArity token bound <;> rfl

theorem Brackets.ofToken_eq (h : Brackets (Text.trim token) element bound) (runtime : Text) :
    ofToken runtime token =
      (boundArity (Text.trim token) bound).map (ofElement runtime element) := by
  rcases ofToken_of_open h.open_mem runtime with ⟨hnone, -⟩ | ⟨element', bound', h', heq⟩
  · exact absurd h (hnone element bound)
  · obtain ⟨rfl, rfl⟩ := h.unique h'
    exact heq

/-- A type token is refused for its size exactly if the size is bad. -/
theorem ofToken_size_iff (runtime token : Text) :
    (∃ e, ofToken runtime token = .error (.size e)) ↔ BadSize (Text.trim token) := by
  by_cases hopen : '[' ∈ Text.trim token
  · rcases ofToken_of_open hopen runtime with ⟨hnone, heq⟩ | ⟨element, bound, hb, heq⟩
    · rw [heq]
      refine iff_of_false (by simp) ?_
      rintro ⟨element, bound, hspelled, hne, helement, hbound, -⟩
      exact hnone element bound ⟨hspelled, hne, helement, hbound⟩
    · rw [heq, hb.badSize_iff]
      cases boundArity (Text.trim token) bound <;> simp [Except.map]
  · rw [ofToken_of_not_open hopen]
    refine iff_of_false (by simp) ?_
    rintro ⟨element, bound, hspelled, -⟩
    exact hopen (hspelled ▸ by simp)

end FieldType

/-! ## Lines -/

/-- A field with a number that is written and not read. -/
inductive FieldLine.BadNumber (f : FieldLine) : Prop
  /-- Its value is an integer of too many digits. -/
  | value (h : isInteger f.value = true)
    (hlong : Numeral.maxDigits < (dropPlus f.value).length)
  /-- Its type is an array with a bad size. -/
  | size (h : FieldType.BadSize (Text.trim f.typeToken))

theorem FieldLine.parse_error {line : Text} {e : LineError} (h : parse line = .error e) :
    e = .incomplete (Text.trim line) := by
  unfold parse at h
  split at h
  · cases h
  · cases h; rfl

namespace Definition

variable {runtime : Text} {comments : List Text} {line : Text} {e : LineError}

/-- **A line that no run passes over is one with a bad number.** -/
theorem readField_unpassable_iff :
    (∃ e, readField runtime comments line = .error e ∧ e.isRecoverable = false) ↔
      ∃ f, FieldLine.parse line = .ok f ∧ f.BadNumber := by
  unfold readField
  cases hf : FieldLine.parse line with
  | error e =>
    rw [FieldLine.parse_error hf]
    simp [LineError.isRecoverable]
  | ok f =>
    simp only [Except.ok.injEq, exists_eq_left']
    have hvalue := f.exists_intValue_error_iff
    have hsize := FieldType.ofToken_size_iff runtime f.typeToken
    cases hi : f.intValue with
    | error e =>
      -- the value is read before the type, and its refusal is enough
      obtain ⟨h, hlong⟩ := hvalue.1 ⟨e, hi⟩
      exact ⟨fun _ => .value h hlong, fun _ => ⟨_, rfl, rfl⟩⟩
    | ok value =>
      have hnot : ¬ (FieldLine.isInteger f.value = true ∧
          Numeral.maxDigits < (FieldLine.dropPlus f.value).length) := by
        rw [← hvalue, hi]; simp
      have hbad : f.BadNumber ↔ FieldType.BadSize (Text.trim f.typeToken) := by
        constructor
        · rintro (⟨h, hlong⟩ | h)
          · exact absurd ⟨h, hlong⟩ hnot
          · exact h
        · exact .size
      rw [hbad, ← hsize]
      cases FieldType.ofToken runtime f.typeToken with
      | error e => cases e <;> simp [LineError.isRecoverable]
      | ok type => simp

/-- The comments above a line do not decide whether it is read. -/
theorem readField_error_iff :
    readField runtime comments line = .error e ↔ readField runtime [] line = .error e := by
  unfold readField
  cases FieldLine.parse line with
  | error e => rfl
  | ok f =>
    cases hi : f.intValue with
    | error e => simp only [hi]
    | ok value =>
      cases ht : FieldType.ofToken runtime f.typeToken with
      | error e => simp only [hi, ht]
      | ok type => simp only [hi, ht, reduceCtorEq]

theorem readField_ok_of {c : Constant} (h : readField runtime comments line = .ok c) :
    ∃ c', readField runtime [] line = .ok c' := by
  cases hr : readField runtime [] line with
  | ok c' => exact ⟨c', rfl⟩
  | error e => rw [readField_error_iff.2 hr] at h; cases h

/-! ## Definitions -/

/-- The first line of a list that is refused, and why. -/
def FirstRefused (runtime : Text) (lines : List Text) (line : Text) (e : LineError) : Prop :=
  ∃ before after, lines = before ++ line :: after ∧
    (∀ l ∈ before, ∃ c, readField runtime [] l = .ok c) ∧ readField runtime [] line = .error e

theorem firstRefused_cons {first : Text} {lines : List Text} :
    FirstRefused runtime (first :: lines) line e ↔
      first = line ∧ readField runtime [] first = .error e ∨
        (∃ c, readField runtime [] first = .ok c) ∧ FirstRefused runtime lines line e := by
  constructor
  · rintro ⟨before, after, hsplit, hok, he⟩
    cases before with
    | nil =>
      obtain ⟨rfl, rfl⟩ := List.cons.inj hsplit
      exact .inl ⟨rfl, he⟩
    | cons l before =>
      obtain ⟨rfl, rfl⟩ := List.cons.inj hsplit
      exact .inr ⟨hok first List.mem_cons_self, before, after, rfl,
        fun l hl => hok l (List.mem_cons_of_mem _ hl), he⟩
  · rintro (⟨rfl, he⟩ | ⟨hfirst, before, after, rfl, hok, he⟩)
    · exact ⟨[], lines, rfl, by simp, he⟩
    · refine ⟨first :: before, after, rfl, fun l hl => ?_, he⟩
      rcases List.mem_cons.1 hl with rfl | hl
      · exact hfirst
      · exact hok l hl

theorem readBody_error_iff {lines : List Text} :
    readBody runtime comments lines = .error e ↔
      ∃ line, FirstRefused runtime (lines.filter Line.isField) line e := by
  induction lines generalizing comments with
  | nil =>
    simp only [readBody, reduceCtorEq, List.filter_nil, false_iff, not_exists]
    rintro line ⟨before, after, hsplit, -⟩
    simp at hsplit
  | cons first lines ih =>
    unfold readBody
    cases hk : Line.kind first with
    | blank | comment => rw [List.filter_cons_of_neg (by simp [Line.isField, hk])]; exact ih
    | field =>
      rw [List.filter_cons_of_pos (by simp [Line.isField, hk])]
      simp only [firstRefused_cons]
      cases hr : readField runtime comments first with
      | error e' =>
        have hr' := readField_error_iff.1 hr
        simp [hr']
      | ok c =>
        -- the comments gathered so far go with this field, and do not decide about it
        obtain ⟨c', hc'⟩ := readField_ok_of hr
        have hmap : (readBody runtime [] lines).map (c :: ·) = .error e ↔
            readBody runtime [] lines = .error e := by
          cases readBody runtime [] lines <;> simp [Except.map]
        simp only [hmap, ih, hc', reduceCtorEq, and_false, false_or, Except.ok.injEq, exists_eq',
          true_and]

/-- **A definition is refused for its first refused field line.** -/
theorem parse_error_iff {rawLines : List Text} (name : Text) :
    parse rawLines name runtime = .error e ↔
      ∃ line, FirstRefused runtime ((rawLines.map Text.trim).filter Line.isField) line e := by
  rw [← filter_isField_normalize]
  unfold parse
  simp only
  by_cases hany : (Line.normalize rawLines).any Line.isField = true
  · -- the preamble has no fields, so the body has all of them
    rw [if_neg (by simpa using hany), ← filter_isField_splitPreamble, ← readBody_error_iff]
    cases readBody runtime [] (splitPreamble (Line.normalize rawLines)).2 <;> simp [Except.map]
  · rw [if_pos (by simpa using hany)]
    have hnil : (Line.normalize rawLines).filter Line.isField = [] := by
      rw [List.filter_eq_nil_iff]
      simpa using hany
    rw [hnil]
    simp only [reduceCtorEq, false_iff, not_exists]
    rintro line ⟨before, after, hsplit, -⟩
    simp at hsplit

/-- The first refused field line has a bad number. -/
def HasBadNumber (runtime : Text) (rawLines : List Text) : Prop :=
  ∃ line e f, FirstRefused runtime ((rawLines.map Text.trim).filter Line.isField) line e ∧
    FieldLine.parse line = .ok f ∧ f.BadNumber

/-- **No run passes over a definition exactly if its first refused field line has a bad
number.** -/
theorem parse_unpassable_iff {rawLines : List Text} (name : Text) :
    (∃ e, parse rawLines name runtime = .error e ∧ e.isRecoverable = false) ↔
      HasBadNumber runtime rawLines := by
  constructor
  · rintro ⟨e, he, hunpassable⟩
    obtain ⟨line, before, after, hsplit, hok, hline⟩ := (parse_error_iff name).1 he
    obtain ⟨f, hf, hbad⟩ := readField_unpassable_iff.1 ⟨e, hline, hunpassable⟩
    exact ⟨line, e, f, ⟨before, after, hsplit, hok, hline⟩, hf, hbad⟩
  · rintro ⟨line, e, f, hfirst, hf, hbad⟩
    have hline : readField runtime [] line = .error e := by
      obtain ⟨before, after, -, -, hline⟩ := hfirst
      exact hline
    obtain ⟨e', he', hunpassable⟩ := readField_unpassable_iff.2 ⟨f, hf, hbad⟩
    rw [hline] at he'
    cases he'
    exact ⟨e, (parse_error_iff name).2 ⟨line, hfirst⟩, hunpassable⟩

end Definition

end RosBindings

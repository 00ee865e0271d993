import RosBindings.Proofs.FieldLines
import RosBindings.Proofs.Refusals

/-!
# The error of a definition

Three things can be wrong with a field line: it has too few tokens, its value has too many
digits, or its type is refused. They are looked at in this order, and the lines in theirs.

* `FieldLine.LongValue`: an integer that has too many digits.
* `Line.Bad`: a line with an error, by the first thing that is wrong with it.
* `Definition.readField_error_iff_bad`: a line is refused exactly if it is bad.
* `Definition.parse_first_bad`: a definition is refused exactly if one of its field lines is bad,
  with the error of the first such line.
-/

namespace RosBindings

/-! ## Bad lines -/

/-- An integer of more digits than are read, with or without a plus sign. -/
structure FieldLine.LongValue (value digits : Text) : Prop where
  spelled : value = digits ∨ value = '+' :: digits
  decimal : ∀ c ∈ digits, Text.isDecimal c = true
  long : Numeral.maxDigits < digits.length

/-- **A line with an error**: too few tokens, else a value of too many digits, else a type that
is refused. -/
inductive Line.Bad (runtime line : Text) : LineError → Prop
  | incomplete (h : (FieldLine.tokens line).length < 2) :
    Bad runtime line (.incomplete (Text.trim line))
  | value {type name value digits : Text} {more : List Text}
    (h : FieldLine.tokens line = type :: name :: value :: more)
    (hlong : FieldLine.LongValue value digits) :
    Bad runtime line (.value (.tooLong digits.length))
  | type {type name : Text} {more : List Text} {e : TypeError}
    (h : FieldLine.tokens line = type :: name :: more)
    (hshort : ∀ digits, ¬ FieldLine.LongValue (more.headD []) digits)
    (he : FieldType.ofToken runtime type = .error e) : Bad runtime line (.type e)

namespace FieldLine

theorem dropPlus_of_decimal {digits : Text} (h : ∀ c ∈ digits, Text.isDecimal c = true) :
    dropPlus digits = digits := by
  unfold dropPlus
  split
  · next cs =>
    have hplus := h '+' List.mem_cons_self
    exact absurd hplus (by decide)
  · rfl

theorem eq_or_eq_dropPlus (value : Text) :
    value = dropPlus value ∨ value = '+' :: dropPlus value := by
  unfold dropPlus
  split
  · exact .inr rfl
  · exact .inl rfl

/-- A value has too many digits if they are all it has, a plus sign aside. -/
theorem longValue_iff {value digits : Text} :
    LongValue value digits ↔
      isInteger value = true ∧ Numeral.maxDigits < digits.length ∧ digits = dropPlus value := by
  constructor
  · rintro ⟨hspelled, hdecimal, hlong⟩
    have hdrop : dropPlus value = digits := by
      rcases hspelled with rfl | rfl
      · exact dropPlus_of_decimal hdecimal
      · rfl
    have hne : digits ≠ [] := by
      rintro rfl
      exact absurd hlong (Nat.not_lt_zero _)
    refine ⟨?_, hlong, hdrop.symm⟩
    simp [isInteger, hdrop, hne, List.all_eq_true.2 hdecimal]
  · rintro ⟨hinteger, hlong, rfl⟩
    simp only [isInteger, Bool.and_eq_true, List.all_eq_true] at hinteger
    exact ⟨eq_or_eq_dropPlus value, hinteger.2, hlong⟩

/-- The value of a field is not read as a number exactly if it has too many digits. -/
theorem intValue_eq_error_iff {f : FieldLine} {e : NumeralError} :
    f.intValue = .error e ↔ ∃ digits, LongValue f.value digits ∧ e = .tooLong digits.length := by
  simp only [longValue_iff]
  unfold intValue
  by_cases hinteger : isInteger f.value = true
  · have hall : (dropPlus f.value).takeWhile Text.isDecimal = dropPlus f.value := by
      simp only [isInteger, Bool.and_eq_true, List.all_eq_true] at hinteger
      exact List.takeWhile_eq_self_iff.2 hinteger.2
    rw [if_pos hinteger]
    unfold Numeral.read
    simp only [hall, lt_irrefl, if_false]
    by_cases hlong : Numeral.maxDigits < (dropPlus f.value).length
    · rw [if_pos hlong]
      constructor
      · intro h
        exact ⟨_, ⟨hinteger, hlong, rfl⟩, (Except.error.inj h).symm⟩
      · rintro ⟨digits, ⟨-, -, rfl⟩, rfl⟩
        rfl
    · rw [if_neg hlong]
      refine iff_of_false (by simp [Except.map]) ?_
      rintro ⟨digits, ⟨-, hmany, rfl⟩, -⟩
      exact hlong hmany
  · rw [if_neg hinteger]
    refine iff_of_false (by simp) ?_
    rintro ⟨digits, ⟨h, -⟩, -⟩
    exact hinteger h

/-- Blanks around a line are in no token. -/
theorem tokens_trim (line : Text) : tokens (Text.trim line) = tokens line := by
  rw [← tokens_trim_body, Line.trim_body_trim, tokens_trim_body]

end FieldLine

namespace Line

variable {runtime line : Text} {e : LineError}

theorem bad_of_length_lt (h : (FieldLine.tokens line).length < 2) :
    Bad runtime line e ↔ e = .incomplete (Text.trim line) := by
  constructor
  · rintro (_ | ⟨htokens, -⟩ | ⟨htokens, -, -⟩)
    · rfl
    all_goals
      rw [htokens] at h
      simp only [List.length_cons] at h
      omega
  · rintro rfl
    exact .incomplete h

theorem bad_of_tokens {type name : Text} {more : List Text}
    (h : FieldLine.tokens line = type :: name :: more) :
    Bad runtime line e ↔
      (∃ digits, FieldLine.LongValue (more.headD []) digits ∧
        e = .value (.tooLong digits.length)) ∨
      (∀ digits, ¬ FieldLine.LongValue (more.headD []) digits) ∧
        ∃ error, FieldType.ofToken runtime type = .error error ∧ e = .type error := by
  constructor
  · rintro (hshort | ⟨htokens, hlong⟩ | ⟨htokens, hshort, he⟩)
    · rw [h] at hshort
      simp only [List.length_cons] at hshort
      omega
    · cases h.symm.trans htokens
      exact .inl ⟨_, hlong, rfl⟩
    · cases h.symm.trans htokens
      exact .inr ⟨hshort, _, he, rfl⟩
  · rintro (⟨digits, hlong, rfl⟩ | ⟨hshort, error, he, rfl⟩)
    · rcases more with _ | ⟨value, more⟩
      · -- without a value there are no digits
        obtain ⟨-, hmany, rfl⟩ := FieldLine.longValue_iff.1 hlong
        exact absurd hmany (Nat.not_lt_zero _)
      · exact .value h hlong
    · exact .type h hshort he

/-- Blanks around a line do not make it bad, and are not part of its error. -/
theorem bad_trim : Bad runtime (Text.trim line) e ↔ Bad runtime line e := by
  have htokens := FieldLine.tokens_trim line
  rcases hline : FieldLine.tokens line with _ | ⟨type, _ | ⟨name, more⟩⟩
  · rw [bad_of_length_lt (by simp [htokens, hline]), bad_of_length_lt (by simp [hline]),
      Text.trim_trim]
  · rw [bad_of_length_lt (by simp [htokens, hline]), bad_of_length_lt (by simp [hline]),
      Text.trim_trim]
  · rw [bad_of_tokens (htokens.trans hline), bad_of_tokens hline]

end Line

namespace Definition

variable {runtime : Text} {comments : List Text} {line : Text} {e : LineError}

/-- A line with enough tokens is refused for its value, else for its type. -/
theorem readField_error_of_parse {f : FieldLine} (h : FieldLine.parse line = .ok f) :
    readField runtime comments line = .error e ↔
      (∃ digits, FieldLine.LongValue f.value digits ∧ e = .value (.tooLong digits.length)) ∨
      (∀ digits, ¬ FieldLine.LongValue f.value digits) ∧
        ∃ error, FieldType.ofToken runtime f.typeToken = .error error ∧ e = .type error := by
  unfold readField
  rw [h]
  simp only
  cases hint : f.intValue with
  | error error =>
    -- the value is refused, and the type is not looked at
    obtain ⟨digits, hlong, rfl⟩ := FieldLine.intValue_eq_error_iff.1 hint
    constructor
    · intro he
      exact .inl ⟨digits, hlong, (Except.error.inj he).symm⟩
    · rintro (⟨digits', hlong', rfl⟩ | ⟨hshort, -⟩)
      · have herror := FieldLine.intValue_eq_error_iff.2 ⟨digits', hlong', rfl⟩
        rw [Except.error.inj (hint.symm.trans herror)]
      · exact absurd hlong (hshort digits)
  | ok value =>
    have hshort : ∀ digits, ¬ FieldLine.LongValue f.value digits := by
      intro digits hlong
      have herror := FieldLine.intValue_eq_error_iff.2 ⟨digits, hlong, rfl⟩
      rw [hint] at herror
      cases herror
    cases FieldType.ofToken runtime f.typeToken with
    | error error => simp [hshort, eq_comm]
    | ok type => simp [hshort]

/-- **A line is refused exactly if it is bad**, and with its error. -/
theorem readField_error_iff_bad :
    readField runtime comments line = .error e ↔ Line.Bad runtime line e := by
  rcases htokens : FieldLine.tokens line with _ | ⟨type, _ | ⟨name, more⟩⟩
  case cons.cons =>
    have hparse : FieldLine.parse line = .ok ⟨type, name, more.headD [], Line.inlineComment line⟩ := by
      unfold FieldLine.parse
      rw [htokens]
    rw [readField_error_of_parse hparse, Line.bad_of_tokens htokens]
  all_goals
    have hparse : FieldLine.parse line = .error (.incomplete (Text.trim line)) := by
      unfold FieldLine.parse
      rw [htokens]
    rw [Line.bad_of_length_lt (by simp [htokens]), readField, hparse]
    simp [eq_comm]

/-! ## Definitions -/

/-- The first field line that is bad, and its error. -/
def FirstBad (runtime : Text) (rawLines : List Text) (line : Text) (e : LineError) : Prop :=
  ∃ before after, rawLines = before ++ line :: after ∧ Line.isField line = true ∧
    Line.Bad runtime line e ∧
    ∀ l ∈ before, Line.isField l = true → ∀ error, ¬ Line.Bad runtime l error

theorem exists_readField_ok_iff :
    (∃ c, readField runtime comments line = .ok c) ↔ ∀ error, ¬ Line.Bad runtime line error := by
  have hbad : ∀ error, Line.Bad runtime line error ↔
      readField runtime comments line = .error error := fun _ => readField_error_iff_bad.symm
  simp only [hbad]
  cases readField runtime comments line <;> simp

/-- Field lines are looked at in their order, and trimmed. -/
theorem firstRefused_iff_firstBad {rawLines : List Text} :
    (∃ line, FirstRefused runtime ((rawLines.map Text.trim).filter Line.isField) line e) ↔
      ∃ line, FirstBad runtime rawLines line e := by
  have hfilter : (rawLines.map Text.trim).filter Line.isField =
      (rawLines.filter Line.isField).map Text.trim := by
    rw [List.filter_map]
    congr 2
    funext l
    exact Line.isField_trim l
  rw [hfilter]
  constructor
  · rintro ⟨line, before, after, hsplit, hok, he⟩
    obtain ⟨before', rest, hrest, rfl, hmap⟩ := List.map_eq_append_iff.1 hsplit
    obtain ⟨line', after', rfl, rfl, -⟩ := List.map_eq_cons_iff.1 hmap
    obtain ⟨first, last, rfl, rfl, hlast⟩ := List.filter_eq_append_iff.1 hrest
    obtain ⟨more, tail, rfl, hmore, hfield, -⟩ := List.filter_eq_cons_iff.1 hlast
    refine ⟨line', first ++ more, tail, by simp, hfield,
      Line.bad_trim.1 (readField_error_iff_bad.1 he), fun l hl hlfield error hbad => ?_⟩
    rcases List.mem_append.1 hl with hl | hl
    · have hmem : Text.trim l ∈ (first.filter Line.isField).map Text.trim :=
        List.mem_map_of_mem (List.mem_filter.2 ⟨hl, hlfield⟩)
      exact exists_readField_ok_iff.1 (hok _ hmem) error (Line.bad_trim.2 hbad)
    · exact hmore l hl hlfield
  · rintro ⟨line, before, after, rfl, hfield, hbad, hgood⟩
    refine ⟨Text.trim line, (before.filter Line.isField).map Text.trim,
      (after.filter Line.isField).map Text.trim, ?_, fun l hl => ?_,
      readField_error_iff_bad.2 (Line.bad_trim.2 hbad)⟩
    · rw [List.filter_append, List.filter_cons_of_pos hfield, List.map_append, List.map_cons]
    · obtain ⟨l, hmem, rfl⟩ := List.mem_map.1 hl
      obtain ⟨hl, hlfield⟩ := List.mem_filter.1 hmem
      exact exists_readField_ok_iff.2 fun error hbad => hgood l hl hlfield error (Line.bad_trim.1 hbad)

theorem parse_error_iff_firstBad {rawLines : List Text} (name : Text) :
    parse rawLines name runtime = .error e ↔ ∃ line, FirstBad runtime rawLines line e :=
  (parse_error_iff name).trans firstRefused_iff_firstBad

/-- Where a field line is bad, one of them is the first. -/
theorem exists_firstBad {rawLines : List Text} (hl : line ∈ rawLines)
    (hfield : Line.isField line = true) (hbad : Line.Bad runtime line e) :
    ∃ first error, FirstBad runtime rawLines first error := by
  induction rawLines with
  | nil => cases hl
  | cons l rawLines ih =>
    by_cases hfirst : Line.isField l = true ∧ ∃ error, Line.Bad runtime l error
    · obtain ⟨hlfield, error, hlbad⟩ := hfirst
      exact ⟨l, error, [], rawLines, rfl, hlfield, hlbad, by simp⟩
    · have hmem : line ∈ rawLines := by
        rcases List.mem_cons.1 hl with rfl | hl
        · exact absurd ⟨hfield, e, hbad⟩ hfirst
        · exact hl
      obtain ⟨first, error, before, after, rfl, hffield, hfbad, hgood⟩ := ih hmem
      refine ⟨first, error, l :: before, after, rfl, hffield, hfbad, ?_⟩
      refine List.forall_mem_cons.2 ⟨fun hlfield error hlbad => ?_, hgood⟩
      exact hfirst ⟨hlfield, error, hlbad⟩

/-- Scanning leaves out no field line: those above it are dropped for being empty, or document
the message. -/
theorem exists_above_scan (rawLines : List Text) :
    ∃ dropped, rawLines.map Text.trim =
        dropped ++ (splitPreamble (Line.normalize rawLines)).1
          ++ (splitPreamble (Line.normalize rawLines)).2 ∧
      ∀ l ∈ dropped ++ (splitPreamble (Line.normalize rawLines)).1, Line.isField l = false := by
  obtain ⟨hsplit, hpreamble⟩ := splitPreamble_spec (Line.normalize rawLines)
  refine ⟨(rawLines.map Text.trim).takeWhile List.isEmpty, ?_, fun l hl => ?_⟩
  · rw [List.append_assoc, hsplit]
    exact List.takeWhile_append_dropWhile.symm
  · rcases List.mem_append.1 hl with hl | hl
    · have hempty : l = [] := by simpa using List.mem_takeWhile_imp hl
      rw [hempty]
      rfl
    · exact hpreamble l hl

/-- **Which error a definition gives.** It is refused exactly if one of its field lines is bad,
and the error is that of the first such line: too few tokens, and then the message names the
trimmed line; else an integer value of too many digits; else a type that is refused. No field
line stands above those that are scanned, so none is passed over. -/
theorem parse_first_bad (rawLines : List Text) (name runtime : Text) :
    ((∃ e, parse rawLines name runtime = .error e) ↔
      ∃ line ∈ rawLines, Line.isField line = true ∧ ∃ e, Line.Bad runtime line e) ∧
    (∀ e, parse rawLines name runtime = .error e ↔ ∃ line, FirstBad runtime rawLines line e) ∧
    (∀ line e, (FieldLine.tokens line).length < 2 → Line.Bad runtime line e →
      e = .incomplete (Text.trim line) ∧ Text.trim line <:+: e.message) ∧
    ∃ dropped, rawLines.map Text.trim =
        dropped ++ (splitPreamble (Line.normalize rawLines)).1
          ++ (splitPreamble (Line.normalize rawLines)).2 ∧
      ∀ l ∈ dropped ++ (splitPreamble (Line.normalize rawLines)).1, Line.isField l = false := by
  refine ⟨⟨?_, ?_⟩, fun e => parse_error_iff_firstBad name, fun line e hshort hbad => ?_,
    exists_above_scan rawLines⟩
  · rintro ⟨e, he⟩
    obtain ⟨line, before, after, rfl, hfield, hbad, -⟩ := (parse_error_iff_firstBad name).1 he
    exact ⟨line, by simp, hfield, e, hbad⟩
  · rintro ⟨line, hl, hfield, e, hbad⟩
    obtain ⟨first, error, hfirst⟩ := exists_firstBad hl hfield hbad
    exact ⟨error, (parse_error_iff_firstBad name).2 ⟨first, hfirst⟩⟩
  · obtain rfl := (Line.bad_of_length_lt hshort).1 hbad
    exact ⟨rfl, List.infix_append _ _ _⟩

/-- The line without a name comes before the one with a bracket that is not closed. -/
theorem parse_first_bad_nameless :
    let lines : List Text := ["# top", "", "int32 a=+7", " x # no name", "int8[ b", "y"]
    parse lines "p/A" "id.jrosmessages" = .error (.incomplete "x # no name") ∧
      ∃ line, FirstBad "id.jrosmessages" lines line (.incomplete "x # no name") := by
  intro lines
  have he : parse lines "p/A" "id.jrosmessages" = .error (.incomplete "x # no name") := by
    decide +kernel
  exact ⟨he, ((parse_first_bad lines "p/A" "id.jrosmessages").2.1 _).1 he⟩

end Definition

end RosBindings

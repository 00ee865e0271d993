import Mathlib.Data.Nat.Digits.Defs
import RosBindings.Proofs.Names
import RosBindings.Proofs.Refusals

/-!
# Array markers

A token with an opening bracket has to end in an array marker: `[]`, `[N]` or `[<=N]` behind an
element without brackets, where `N` is a number and blanks may stand around it.

* `Bound`: what may stand between the brackets; `boundArity_eq_ok_iff`: what is accepted there.
* `WellMarked` and `LooseLimit`: tokens with such a marker, and tokens that only start their bound
  like one. `marker_verdict`: both are accepted; of the others all are refused as malformed but
  those with a size that is not read.
* `Marker`: a marker of ASCII digits, or none; `ofToken_marked`: it decides about the arity, and
  the element about all else.
-/

namespace RosBindings

/-! ## Digits of ASCII -/

namespace Text

variable {c : Char} {t u : Text}

theorem decimalValue?_of_isDigit (h : c.isDigit = true) :
    decimalValue? c = some (c.toNat - '0'.toNat) := by
  have hrange := toNat_of_isDigit h
  -- the zero of ASCII is the first in the table
  have hfind : decimalZeros.find? (fun z => z ≤ c.toNat && c.toNat < z + 10) = some 0x30 := by
    refine List.find?_cons_of_pos (p := fun z => z ≤ c.toNat && c.toNat < z + 10) ?_
    rw [Bool.and_eq_true, decide_eq_true_eq, decide_eq_true_eq]
    omega
  rw [decimalValue?, hfind]
  rfl

theorem isDecimal_of_isDigit (h : c.isDigit = true) : isDecimal c = true := by
  rw [isDecimal, decimalValue?_of_isDigit h]
  rfl

theorem isBlank_of_isDigit (h : c.isDigit = true) : isBlank c = false := by
  have halnum : c.isAlphanum = true := by
    rw [Char.isAlphanum, h, Bool.or_true]
  have hsep := (Naming.of_isAlphanum halnum).1
  rw [Naming.isSeparator, Bool.or_eq_false_iff] at hsep
  exact hsep.2

theorem trim_of_not_blank (h : ∀ c ∈ t, isBlank c = false) : trim t = t := by
  refine trim_eq_self ?_ ?_
  · intro c hc
    exact h c (List.mem_of_mem_head? hc)
  · intro c hc
    exact h c (List.mem_of_getLast? hc)

/-- A text that ends in decimal digits has one as its last character. -/
theorem exists_last_of_decimal (hne : u ≠ []) (h : ∀ c ∈ u, isDecimal c = true) (t : Text) :
    ∃ c, (t ++ u).getLast? = some c ∧ isDecimal c = true := by
  refine ⟨u.getLast hne, ?_, h _ (List.getLast_mem hne)⟩
  rw [List.getLast?_append_of_ne_nil _ hne, List.getLast?_eq_some_getLast hne]

end Text

namespace FieldType

variable {runtime element token bound digits : Text} {type : FieldType}

/-! ## Numbers and bounds -/

/-- A number: decimal digits of any script, at least one, and not more than are read. -/
structure IsNumber (digits : Text) : Prop where
  ne_nil : digits ≠ []
  decimal : ∀ c ∈ digits, Text.isDecimal c = true
  length : digits.length ≤ Numeral.maxDigits

theorem isNumber_iff : IsNumber digits ↔ digits ≠ [] ∧ ¬ Numeral.IsBad digits := by
  constructor
  · rintro ⟨hne, hdecimal, hlength⟩
    refine ⟨hne, ?_⟩
    rw [Numeral.isBad_iff_of_decimal hdecimal]
    omega
  · rintro ⟨hne, hgood⟩
    have hdecimal : ∀ c ∈ digits, Text.isDecimal c = true := by
      intro c hc
      by_contra hno
      exact hgood (.inr ⟨c, hc, by simpa using hno⟩)
    rw [Numeral.isBad_iff_of_decimal hdecimal] at hgood
    exact ⟨hne, hdecimal, by omega⟩

namespace IsNumber

theorem digitLike (h : IsNumber digits) : ∀ c ∈ digits, Text.isDigitLike c = true := by
  intro c hc
  rw [Text.isDigitLike, h.decimal c hc, Bool.true_or]

/-- A number does not start like a limit. -/
theorem not_limit (h : IsNumber digits) : ¬ ("<=" : Text) <+: digits := by
  rintro ⟨rest, rfl⟩
  have hdecimal := h.decimal '<' List.mem_cons_self
  exact absurd hdecimal (by decide)

end IsNumber

/-- Whether a number has no more digits than are read. -/
def IsShort (n : ℕ) : Prop := (Text.ofNat n).length ≤ Numeral.maxDigits

theorem isShort_iff {n : ℕ} : IsShort n ↔ n < 10 ^ Numeral.maxDigits :=
  Nat.length_toDigits_le_iff (by decide) (by decide)

theorem decimalValue_lt (c : Char) : (Text.decimalValue? c).getD 0 < 10 := by
  unfold Text.decimalValue?
  cases hz : Text.decimalZeros.find? fun z => z ≤ c.toNat && c.toNat < z + 10 with
  | none => exact Nat.zero_lt_succ 9
  | some z =>
    have hrange := List.find?_some hz
    rw [Bool.and_eq_true, decide_eq_true_eq, decide_eq_true_eq] at hrange
    rw [Option.map_some, Option.getD_some]
    omega

/-- The value of a run of digits has no more digits than the run. -/
theorem value_lt (digits : Text) : Numeral.value digits < 10 ^ digits.length := by
  induction digits using List.reverseRecOn with
  | nil => exact Nat.zero_lt_one
  | append_singleton digits c ih =>
    have hc := decimalValue_lt c
    have hstep : Numeral.value (digits ++ [c]) =
        10 * Numeral.value digits + (Text.decimalValue? c).getD 0 := List.foldl_append
    rw [hstep, List.length_append, List.length_singleton, Nat.pow_succ]
    omega

/-- **What may stand between the brackets** of a marker, blanks around it left out, and the arity
that it stands for. -/
inductive Bound : Text → Arity → Prop
  /-- Nothing, for an array without a fixed size. -/
  | free : Bound [] (.array 0)
  /-- The size of an array. -/
  | sized {digits : Text} (h : IsNumber digits) : Bound digits (.array (Numeral.value digits))
  /-- A limit on the size, which is then not fixed. -/
  | limited {gap digits : Text} (hgap : gap.all Text.isBlank = true) (h : IsNumber digits) :
    Bound ("<=" ++ (gap ++ digits)) (.array 0)

namespace Bound

variable {arity : Arity}

theorem arity_of_limit (h : Bound bound arity) (hfree : bound = [] ∨ ("<=" : Text) <+: bound) :
    arity = .array 0 := by
  cases h with
  | free => rfl
  | sized h => exact absurd hfree (not_or.2 ⟨h.ne_nil, h.not_limit⟩)
  | limited hgap h => rfl

theorem iff_isNumber (hne : bound ≠ []) (hlimit : ¬ ("<=" : Text) <+: bound) :
    Bound bound arity ↔ IsNumber bound ∧ arity = .array (Numeral.value bound) := by
  constructor
  · intro h
    cases h with
    | free => exact absurd rfl hne
    | sized h => exact ⟨h, rfl⟩
    | limited hgap h => exact absurd (List.prefix_append _ _) hlimit
  · rintro ⟨h, rfl⟩
    exact .sized h

theorem isShort_size (h : Bound bound arity) : IsShort arity.size := by
  rw [isShort_iff]
  cases h with
  | free | limited => exact Nat.pow_pos (by decide)
  | sized h => exact (value_lt _).trans_le (Nat.pow_le_pow_right (by decide) h.length)

/-- A bound ends in a digit. -/
theorem exists_last (h : Bound bound arity) (hne : bound ≠ []) :
    ∃ c, bound.getLast? = some c ∧ Text.isDecimal c = true := by
  cases h with
  | free => exact absurd rfl hne
  | sized h => exact Text.exists_last_of_decimal h.ne_nil h.decimal []
  | limited hgap h =>
    rw [← List.append_assoc]
    exact Text.exists_last_of_decimal h.ne_nil h.decimal _

end Bound

/-- A bound that starts like a limit and is none. -/
def IsLoose (bound : Text) : Prop := ("<=" : Text) <+: bound ∧ ∀ arity, ¬ Bound bound arity

/-- **The bounds that are accepted.** -/
theorem boundArity_eq_ok_iff {arity : Arity} :
    boundArity token bound = .ok arity ↔
      Bound (Text.trim bound) arity ∨ IsLoose (Text.trim bound) ∧ arity = .array 0 := by
  unfold boundArity
  generalize Text.trim bound = size
  simp only
  by_cases hfree : size = [] ∨ ("<=" : Text) <+: size
  · have hcond : (size.isEmpty || ("<=" : Text).isPrefixOf size) = true := by
      rwa [Bool.or_eq_true, List.isEmpty_iff, List.isPrefixOf_iff_prefix]
    rw [if_pos hcond, Except.ok.injEq]
    constructor
    · rintro rfl
      by_cases hbound : ∃ arity, Bound size arity
      · obtain ⟨arity, h⟩ := hbound
        rw [h.arity_of_limit hfree] at h
        exact .inl h
      · -- nothing at all would be a bound
        have hlimit : ("<=" : Text) <+: size := by
          refine hfree.resolve_left ?_
          rintro rfl
          exact hbound ⟨_, .free⟩
        exact .inr ⟨⟨hlimit, not_exists.1 hbound⟩, rfl⟩
    · rintro (h | ⟨-, rfl⟩)
      · exact (h.arity_of_limit hfree).symm
      · rfl
  · obtain ⟨hne, hlimit⟩ := not_or.1 hfree
    have hcond : ¬ (size.isEmpty || ("<=" : Text).isPrefixOf size) = true := by
      rwa [Bool.or_eq_true, List.isEmpty_iff, List.isPrefixOf_iff_prefix]
    have hloose : ¬ IsLoose size := fun h => hlimit h.1
    rw [if_neg hcond, or_iff_left fun h => hloose h.1, Bound.iff_isNumber hne hlimit]
    by_cases hdigits : size.all Text.isDigitLike = true
    · rw [if_neg (by simp [hdigits])]
      cases hread : Numeral.read size with
      | ok n =>
        obtain ⟨hgood, rfl⟩ := Numeral.read_eq_ok_iff.1 hread
        rw [Except.ok.injEq, and_iff_right (isNumber_iff.2 ⟨hne, hgood⟩), eq_comm]
      | error e =>
        refine iff_of_false (by simp) fun h => (isNumber_iff.1 h.1).2 ?_
        exact (Numeral.exists_error_iff size).1 ⟨e, hread⟩
    · rw [if_pos (by simpa using hdigits)]
      refine iff_of_false (by simp) fun h => hdigits ?_
      exact List.all_eq_true.2 h.1.digitLike

theorem isShort_of_boundArity {arity : Arity} (h : boundArity token bound = .ok arity) :
    IsShort arity.size := by
  rcases boundArity_eq_ok_iff.1 h with hbound | ⟨-, rfl⟩
  · exact hbound.isShort_size
  · exact Bound.free.isShort_size

/-- A bound is refused for its spelling, or for a size that is not read. -/
theorem boundArity_error {e : TypeError} (h : boundArity token bound = .error e) :
    e = .malformedSize token ∨ ∃ error, e = .size error := by
  unfold boundArity at h
  simp only at h
  split at h
  · cases h
  · split at h
    · exact .inl (Except.error.inj h).symm
    · split at h
      · cases h
      · next error _ => exact .inr ⟨error, (Except.error.inj h).symm⟩

/-! ## The verdict -/

/-- A token is an element with an array marker of this arity, spelled as it should be. -/
def WellMarked (token element : Text) (arity : Arity) : Prop :=
  ∃ bound, Brackets token element bound ∧ Bound (Text.trim bound) arity

/-- A token is an element with a bound that starts like a limit and is none. -/
def LooseLimit (token element : Text) : Prop :=
  ∃ bound, Brackets token element bound ∧ IsLoose (Text.trim bound)

/-- Whether a token ends in an array marker as it should be spelled. -/
def IsMarked (token : Text) : Prop := ∃ element arity, WellMarked token element arity

/-- Whether the bound of a token starts like a limit and is none. -/
def IsLooselyMarked (token : Text) : Prop := ∃ element, LooseLimit token element

/-- Whether a token is refused for its brackets, or for what stands between them. -/
def RefusesMarker (runtime token : Text) : Prop :=
  ofToken runtime token = .error (.malformedArray (Text.trim token)) ∨
    ofToken runtime token = .error (.malformedSize (Text.trim token))

theorem ofToken_eq_ok_iff (hopen : '[' ∈ Text.trim token) :
    ofToken runtime token = .ok type ↔
      ∃ element arity, type = ofElement runtime element arity ∧
        (WellMarked (Text.trim token) element arity ∨
          LooseLimit (Text.trim token) element ∧ arity = .array 0) := by
  constructor
  · intro h
    rcases ofToken_of_open hopen runtime with ⟨-, heq⟩ | ⟨element, bound, hb, heq⟩
    · rw [heq] at h
      cases h
    · rw [heq] at h
      cases harity : boundArity (Text.trim token) bound with
      | error e => rw [harity] at h; cases h
      | ok arity =>
        rw [harity] at h
        refine ⟨element, arity, (Except.ok.inj h).symm, ?_⟩
        rcases boundArity_eq_ok_iff.1 harity with hbound | ⟨hloose, hzero⟩
        · exact .inl ⟨bound, hb, hbound⟩
        · exact .inr ⟨⟨bound, hb, hloose⟩, hzero⟩
  · have hok : ∀ {element bound arity}, Brackets (Text.trim token) element bound →
        (Bound (Text.trim bound) arity ∨ IsLoose (Text.trim bound) ∧ arity = .array 0) →
        ofToken runtime token = .ok (ofElement runtime element arity) := by
      intro element bound arity hb hbound
      rw [hb.ofToken_eq, boundArity_eq_ok_iff.2 hbound]
      rfl
    rintro ⟨element, arity, rfl, ⟨bound, hb, hbound⟩ | ⟨⟨bound, hb, hloose⟩, hzero⟩⟩
    · exact hok hb (.inl hbound)
    · exact hok hb (.inr ⟨hloose, hzero⟩)

/-- A token that is not accepted is refused for its marker, or for a size that is not read. -/
theorem refusesMarker_iff (hopen : '[' ∈ Text.trim token) :
    RefusesMarker runtime token ↔
      (∀ type, ofToken runtime token ≠ .ok type) ∧
        ∀ e, ofToken runtime token ≠ .error (.size e) := by
  constructor
  · rintro (h | h) <;> simp [h]
  · rintro ⟨hok, hsize⟩
    rcases ofToken_of_open hopen runtime with ⟨-, heq⟩ | ⟨element, bound, -, heq⟩
    · exact .inl heq
    · cases harity : boundArity (Text.trim token) bound with
      | ok arity =>
        rw [harity] at heq
        exact absurd heq (hok _)
      | error e =>
        rw [harity] at heq
        rcases boundArity_error harity with rfl | ⟨error, rfl⟩
        · exact .inr heq
        · exact absurd heq (hsize error)

theorem IsMarked.not_isLooselyMarked (h : IsMarked token) : ¬ IsLooselyMarked token := by
  rintro ⟨element', bound', hb', hloose⟩
  obtain ⟨element, arity, bound, hb, hbound⟩ := h
  obtain ⟨-, rfl⟩ := hb.unique hb'
  exact hloose.2 arity hbound

/-- **Which tokens with an opening bracket are accepted.** Those that are marked as they should be,
with the arity of the marker, and those with a loose limit, as if they had no limit at all. A size
made of digits that is not read is refused as a number, and every other token for its marker. So
for a single token it holds that it is accepted exactly if it is marked, and refused for its marker
otherwise, unless it has a loose limit or a size that is not read. -/
theorem marker_verdict (hopen : '[' ∈ Text.trim token) (runtime : Text) :
    (∀ type, ofToken runtime token = .ok type ↔
      ∃ element arity, type = ofElement runtime element arity ∧
        (WellMarked (Text.trim token) element arity ∨
          LooseLimit (Text.trim token) element ∧ arity = .array 0)) ∧
    ((∃ e, ofToken runtime token = .error (.size e)) ↔ BadSize (Text.trim token)) ∧
    (RefusesMarker runtime token ↔
      ¬ IsMarked (Text.trim token) ∧ ¬ IsLooselyMarked (Text.trim token) ∧
        ¬ BadSize (Text.trim token)) ∧
    ((((∃ type, ofToken runtime token = .ok type) ↔ IsMarked (Text.trim token)) ∧
        (¬ IsMarked (Text.trim token) → RefusesMarker runtime token)) ↔
      ¬ IsLooselyMarked (Text.trim token) ∧ ¬ BadSize (Text.trim token)) := by
  have hok : ∀ type, ofToken runtime token = .ok type ↔ _ := fun type => ofToken_eq_ok_iff hopen
  have hsize := ofToken_size_iff runtime token
  have haccepted : (∃ type, ofToken runtime token = .ok type) ↔
      IsMarked (Text.trim token) ∨ IsLooselyMarked (Text.trim token) := by
    constructor
    · rintro ⟨type, h⟩
      obtain ⟨element, arity, -, hmarked | ⟨hloose, -⟩⟩ := (hok type).1 h
      · exact .inl ⟨element, arity, hmarked⟩
      · exact .inr ⟨element, hloose⟩
    · rintro (⟨element, arity, hmarked⟩ | ⟨element, hloose⟩)
      · exact ⟨_, (hok _).2 ⟨element, arity, rfl, .inl hmarked⟩⟩
      · exact ⟨_, (hok _).2 ⟨element, .array 0, rfl, .inr ⟨hloose, rfl⟩⟩⟩
  have hrefused : RefusesMarker runtime token ↔
      ¬ IsMarked (Text.trim token) ∧ ¬ IsLooselyMarked (Text.trim token) ∧
        ¬ BadSize (Text.trim token) := by
    rw [refusesMarker_iff hopen, ← hsize, ← and_assoc, ← not_or, ← haccepted, not_exists,
      not_exists]
  refine ⟨hok, hsize, hrefused, ?_⟩
  rw [haccepted, hrefused]
  -- a marked token is neither loosely marked nor refused
  have hloose : IsMarked (Text.trim token) → ¬ IsLooselyMarked (Text.trim token) :=
    IsMarked.not_isLooselyMarked
  have hgood : IsMarked (Text.trim token) → ¬ BadSize (Text.trim token) := by
    intro hmarked hbad
    obtain ⟨type, haccept⟩ := haccepted.2 (.inl hmarked)
    obtain ⟨e, herror⟩ := hsize.2 hbad
    rw [haccept] at herror
    cases herror
  constructor
  · rintro ⟨-, hothers⟩
    by_cases hmarked : IsMarked (Text.trim token)
    · exact ⟨hloose hmarked, hgood hmarked⟩
    · exact (hothers hmarked).2
  · rintro ⟨hnot, hbad⟩
    exact ⟨or_iff_left hnot, fun hmarked => ⟨hmarked, hnot, hbad⟩⟩

/-- Two tokens that are not marked as they should be: one has a limit that is no number and is
accepted, the other has a digit outside the decimal systems and is not refused for its marker. -/
theorem marker_verdict_strays :
    let loose : Text := "int32[<=x]"
    let unread : Text := "int32[²]"
    ('[' ∈ Text.trim loose ∧ ¬ IsMarked (Text.trim loose) ∧
      ofToken defaultRuntime loose = .ok ⟨.primitive, "int", none, .array 0⟩ ∧
      IsLooselyMarked (Text.trim loose)) ∧
    '[' ∈ Text.trim unread ∧
      ofToken defaultRuntime unread = .error (.size (.notDecimal "²")) ∧
      BadSize (Text.trim unread) ∧ ¬ RefusesMarker defaultRuntime unread := by
  intro loose unread
  have hloose : '[' ∈ Text.trim loose := by decide
  have hunread : '[' ∈ Text.trim unread := by decide
  have haccepted : ofToken defaultRuntime loose = .ok ⟨.primitive, "int", none, .array 0⟩ := by
    decide +kernel
  have hrefused : ofToken defaultRuntime unread = .error (.size (.notDecimal "²")) := by
    decide +kernel
  have hbrackets : Brackets (Text.trim loose) "int32" "<=x" :=
    splitMarker?_eq_some_iff.1 (by decide +kernel)
  have hmarked : ¬ IsMarked (Text.trim loose) := by
    rintro ⟨element, arity, bound, hb, hbound⟩
    obtain ⟨-, rfl⟩ := hbrackets.unique hb
    obtain ⟨c, hlast, hdecimal⟩ := hbound.exists_last (by decide)
    obtain rfl : 'x' = c := Option.some.inj hlast
    exact absurd hdecimal (by decide)
  obtain ⟨hok, -, -, -⟩ := marker_verdict hloose defaultRuntime
  obtain ⟨-, hsize, hmalformed, -⟩ := marker_verdict hunread defaultRuntime
  have hbad : BadSize (Text.trim unread) := hsize.1 ⟨_, hrefused⟩
  refine ⟨⟨hloose, hmarked, haccepted, ?_⟩, hunread, hrefused, hbad,
    fun h => (hmalformed.1 h).2.2 hbad⟩
  obtain ⟨element, arity, -, hwell | ⟨hlimit, -⟩⟩ := (hok _).1 haccepted
  · exact absurd ⟨element, arity, hwell⟩ hmarked
  · exact ⟨element, hlimit⟩

/-! ## Markers of ASCII digits -/

/-- The digits of a size: at least one, of ASCII, and not more than are read. -/
structure IsSize (digits : Text) : Prop where
  ne_nil : digits ≠ []
  digit : ∀ c ∈ digits, c.isDigit = true
  length : digits.length ≤ Numeral.maxDigits

theorem IsSize.isNumber (h : IsSize digits) : IsNumber digits :=
  ⟨h.ne_nil, fun c hc => Text.isDecimal_of_isDigit (h.digit c hc), h.length⟩

theorem IsSize.not_blank (h : IsSize digits) : ∀ c ∈ digits, Text.isBlank c = false :=
  fun c hc => Text.isBlank_of_isDigit (h.digit c hc)

/-- What stands behind an element: nothing, or an array marker. -/
inductive Marker
  /-- Nothing, for one value. -/
  | single
  /-- An array without a size. -/
  | free
  /-- An array of the given size. -/
  | sized (digits : Text)
  /-- An array of at most the given size. -/
  | bounded (digits : Text)

namespace Marker

/-- What stands between the brackets of a marker. -/
def bound? : Marker → Option Text
  | single => none
  | free => some []
  | sized digits => some digits
  | bounded digits => some ("<=" ++ digits)

/-- A marker as it is written. -/
def text (m : Marker) : Text :=
  match m.bound? with
  | none => []
  | some bound => '[' :: (bound ++ [']'])

/-- The arity that a marker stands for. -/
def arity : Marker → Arity
  | single => .single
  | free => .array 0
  | sized digits => .array (Numeral.value digits)
  | bounded _ => .array 0

/-- Whether the numbers in a marker can be read. -/
def IsRead : Marker → Prop
  | single => True
  | free => True
  | sized digits => IsSize digits
  | bounded digits => IsSize digits

theorem eq_single {m : Marker} (h : m.bound? = none) : m = single := by
  cases m with
  | single => rfl
  | free | sized | bounded => cases h

theorem bound_eq {m : Marker} (hm : m.IsRead) (h : m.bound? = some bound) :
    Bound bound m.arity ∧ ∀ c ∈ bound, Text.isBlank c = false ∧ c ≠ ']' := by
  have hdigits : ∀ {digits : Text}, IsSize digits →
      ∀ c ∈ digits, Text.isBlank c = false ∧ c ≠ ']' := by
    intro digits hsize c hc
    refine ⟨hsize.not_blank c hc, ?_⟩
    rintro rfl
    exact absurd (hsize.digit _ hc) (by decide)
  cases m with
  | single => cases h
  | free =>
    obtain rfl := Option.some.inj h
    exact ⟨.free, by simp⟩
  | sized digits =>
    obtain rfl := Option.some.inj h
    have hsize : IsSize digits := hm
    exact ⟨.sized hsize.isNumber, hdigits hsize⟩
  | bounded digits =>
    obtain rfl := Option.some.inj h
    have hsize : IsSize digits := hm
    have hlimit : Bound (("<=" : Text) ++ ([] ++ digits)) (.array 0) := .limited rfl hsize.isNumber
    refine ⟨hlimit, fun c hc => ?_⟩
    rcases List.mem_append.1 hc with hc | hc
    · have hall : ("<=" : Text).all (fun c => !Text.isBlank c && c != ']') = true := by decide
      simpa using List.all_eq_true.1 hall c hc
    · exact hdigits hsize c hc

end Marker

/-- **A marker decides about the arity of a token, and its element about all else.** -/
theorem ofToken_marked (hne : element ≠ []) (htrim : Text.trim element = element)
    (hopen : '[' ∉ element) (hclose : ']' ∉ element) {m : Marker} (hm : m.IsRead)
    (runtime : Text) :
    ofToken runtime (element ++ m.text) = .ok (ofElement runtime element m.arity) := by
  cases hb : m.bound? with
  | none =>
    obtain rfl := Marker.eq_single hb
    have htext : element ++ Marker.text .single = element := List.append_nil element
    rw [htext, ofToken_of_not_open (by rwa [htrim]), htrim]
    rfl
  | some bound =>
    obtain ⟨hbound, hchars⟩ := Marker.bound_eq hm hb
    have htext : m.text = '[' :: (bound ++ [']']) := by rw [Marker.text, hb]
    -- the ends are those of the element and a bracket
    have htoken : Text.trim (element ++ m.text) = element ++ m.text := by
      obtain ⟨e, es, rfl⟩ := List.exists_cons_of_ne_nil hne
      refine Text.trim_eq_self ?_ ?_
      · intro c hc
        obtain rfl : e = c := by simpa using hc
        exact Text.not_isBlank_head htrim
      · intro c hc
        rw [htext, ← List.cons_append, ← List.append_assoc, List.getLast?_concat,
          Option.some.injEq] at hc
        rw [← hc]
        decide
    have hbrackets : Brackets (Text.trim (element ++ m.text)) element bound := by
      rw [htoken, htext]
      refine ⟨rfl, hne, fun c hc => ⟨?_, ?_⟩, fun hc => (hchars _ hc).2 rfl⟩
      · rintro rfl
        exact hopen hc
      · rintro rfl
        exact hclose hc
    have hself : Text.trim bound = bound := Text.trim_of_not_blank fun c hc => (hchars c hc).1
    rw [hbrackets.ofToken_eq, boundArity_eq_ok_iff.2 (.inl (hself.symm ▸ hbound))]
    rfl

end FieldType

end RosBindings

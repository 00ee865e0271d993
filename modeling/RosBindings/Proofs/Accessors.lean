import Mathlib.Data.List.Chain
import Mathlib.Data.List.Induction
import RosBindings.Proofs.CamelCase
import RosBindings.Proofs.Filling

/-!
# Which accessors meet

The accessor of a field is named by the name of the field in camel case, which has no
underscores. An underscore before a letter is still seen, because the letter is a capital then.
One before a digit is not, because a digit has no capital form.

* `IsFieldName`: the names that fields have by rule.
* `joinDigits` leaves out the underscores that are not seen, and `spell` reads the others back.
* `accessors_meet_iff`: two fields have one accessor if and only if their names differ by
  underscores before digits only.
-/

namespace RosBindings

namespace Naming

variable {a b t u : Text} {c d : Char}

/-! ## Names of fields -/

/-- What the names of fields are made of, underscores apart. -/
def isPlainChar (c : Char) : Bool := c.isLower || c.isDigit

/-- How the name of a field may go on: with lower case letters, digits and single underscores, of
which none ends the name. -/
structure IsNameTail (t : Text) : Prop where
  chars : t.all (fun c => isPlainChar c || c == '_') = true
  single : t.IsChain fun c d => c = '_' → d ≠ '_'
  ending : t.getLast? ≠ some '_'

/-- A name that a field has by rule: a lower case letter, and then lower case letters, digits and
single underscores, the last character being no underscore. -/
structure IsFieldName (t : Text) : Prop extends IsNameTail t where
  start : t.head?.any Char.isLower = true

namespace IsNameTail

theorem tail (h : IsNameTail (c :: t)) : IsNameTail t := by
  obtain ⟨hchars, hsingle, hending⟩ := h
  rw [List.all_cons, Bool.and_eq_true] at hchars
  refine ⟨hchars.2, hsingle.tail, ?_⟩
  intro hlast
  rw [List.getLast?_cons, hlast] at hending
  exact hending rfl

/-- An underscore parts the name. -/
theorem after_underscore (h : IsNameTail ('_' :: t)) :
    ∃ d u, t = d :: u ∧ isPlainChar d = true := by
  have htail := h.tail
  obtain ⟨-, hsingle, hending⟩ := h
  cases t with
  | nil => exact absurd rfl hending
  | cons d u =>
    have hne : d ≠ '_' := (List.isChain_cons_cons.1 hsingle).1 rfl
    have hd := List.all_eq_true.1 htail.chars d List.mem_cons_self
    simp only [Bool.or_eq_true, beq_iff_eq] at hd
    exact ⟨d, u, rfl, hd.resolve_right hne⟩

end IsNameTail

theorem isAlphanum_of_isPlainChar (h : isPlainChar c = true) : c.isAlphanum = true := by
  have hkinds : c.isAlphanum = ((c.isUpper || c.isLower) || c.isDigit) := rfl
  rw [isPlainChar, Bool.or_eq_true] at h
  rw [hkinds, Bool.or_eq_true, Bool.or_eq_true]
  rcases h with h | h
  · exact .inl (.inr h)
  · exact .inr h

theorem isSeparator_of_isPlainChar (h : isPlainChar c = true) : isSeparator c = false :=
  (of_isAlphanum (isAlphanum_of_isPlainChar h)).1

theorem ne_underscore_of_isPlainChar (h : isPlainChar c = true) : c ≠ '_' := by
  rintro rfl
  revert h
  decide

/-! ## Camel case, character by character -/

/-- Camel case from inside of a word on. -/
def camelRest : Text → Text
  | [] => []
  | c :: t => if isSeparator c then camelCase t else c :: camelRest t

theorem camelRest_cons (hc : isSeparator c = false) (t : Text) :
    camelRest (c :: t) = c :: camelRest t := by
  rw [camelRest, if_neg (by simp [hc])]

theorem camelRest_cons_sep (hc : isSeparator c = true) (t : Text) :
    camelRest (c :: t) = camelCase t := by
  rw [camelRest, if_pos hc]

theorem camelCase_cons_sep (hc : isSeparator c = true) (t : Text) :
    camelCase (c :: t) = camelCase t := by
  rw [camelCase, Text.words_cons_sep hc, ← camelCase]

/-- A word that is not at its end yet. -/
theorem camelCase_word_append (hw : ∀ x ∈ c :: u, isSeparator x = false) (t : Text) :
    camelCase (c :: u ++ t) = Text.upper c ++ u ++ camelRest t := by
  induction t generalizing u with
  | nil =>
    rw [List.append_nil, camelCase_of_word hw, camelRest, List.append_nil]
    rfl
  | cons x t ih =>
    cases hx : isSeparator x with
    | true =>
      rw [camelCase_append_cons hx, camelCase_of_word hw, camelRest_cons_sep hx]
      rfl
    | false =>
      have hlonger : ∀ y ∈ c :: (u ++ [x]), isSeparator y = false := by
        intro y hy
        rw [← List.cons_append, List.mem_append, List.mem_singleton] at hy
        rcases hy with hy | rfl
        · exact hw y hy
        · exact hx
      have happend : c :: u ++ x :: t = c :: (u ++ [x]) ++ t := by simp
      rw [happend, ih hlonger, camelRest_cons hx]
      simp

theorem camelCase_cons (hc : isSeparator c = false) (t : Text) :
    camelCase (c :: t) = Text.upper c ++ camelRest t := by
  have h := camelCase_word_append (u := []) (List.forall_mem_singleton.2 hc) t
  rwa [List.append_nil] at h

/-! ## Underscores that are not seen -/

/-- A name without the underscores that stand right before a digit. -/
def joinDigits : Text → Text
  | [] => []
  | c :: t => if c = '_' ∧ t.head?.any Char.isDigit = true then joinDigits t else c :: joinDigits t

theorem joinDigits_cons_of_ne (hc : c ≠ '_') (t : Text) :
    joinDigits (c :: t) = c :: joinDigits t := by
  rw [joinDigits, if_neg fun h => hc h.1]

theorem joinDigits_eq_self (h : t.IsChain fun c d => c = '_' → d.isDigit = false) :
    joinDigits t = t := by
  induction t with
  | nil => rfl
  | cons c t ih =>
    rw [joinDigits, if_neg, ih h.tail]
    rintro ⟨rfl, hdigit⟩
    cases t with
    | nil => cases hdigit
    | cons d t =>
      have hd : d.isDigit = false := (List.isChain_cons_cons.1 h).1 rfl
      rw [List.head?_cons, Option.any_some, hd] at hdigit
      cases hdigit

theorem upper_digits :
    (List.range 10).all (fun n => Text.upper (Char.ofNat (48 + n)) = [Char.ofNat (48 + n)]) =
      true := by
  decide +kernel

theorem upper_of_isDigit (h : c.isDigit = true) : Text.upper c = [c] := by
  have hrange := Text.toNat_of_isDigit h
  exact of_decide_eq_true
    (Text.of_codes (p := fun c => Text.upper c = [c]) upper_digits (by omega))

/-- **Underscores before digits are not seen in camel case.** -/
theorem camelCase_joinDigits (t : Text) :
    camelCase (joinDigits t) = camelCase t ∧ camelRest (joinDigits t) = camelRest t := by
  induction t with
  | nil => exact ⟨rfl, rfl⟩
  | cons c t ih =>
    rw [joinDigits]
    split
    · next h =>
      obtain ⟨rfl, hdigit⟩ := h
      have hsep : isSeparator '_' = true := by decide
      rw [ih.1, ih.2, camelCase_cons_sep hsep, camelRest_cons_sep hsep]
      refine ⟨rfl, ?_⟩
      -- the digit is the same at the start of a word and inside of it
      cases t with
      | nil => cases hdigit
      | cons d t =>
        have hd : d.isDigit = true := hdigit
        have hplain : isSeparator d = false :=
          isSeparator_of_isPlainChar (by rw [isPlainChar, hd, Bool.or_true])
        rw [camelRest_cons hplain, camelCase_cons hplain, upper_of_isDigit hd]
        rfl
    · cases hc : isSeparator c with
      | true =>
        rw [camelCase_cons_sep hc, camelCase_cons_sep hc, camelRest_cons_sep hc,
          camelRest_cons_sep hc]
        exact ⟨ih.1, ih.1⟩
      | false =>
        rw [camelCase_cons hc, camelCase_cons hc, camelRest_cons hc, camelRest_cons hc, ih.2]
        exact ⟨rfl, rfl⟩

/-! ## Underscores that are seen -/

/-- A name read back from camel case, with an underscore and a lower case letter for every
capital. -/
def spell (t : Text) : Text := t.flatMap fun c => if c.isUpper then ['_', c.toLower] else [c]

theorem spell_small_letters :
    (List.range 26).all (fun n =>
      spell (Text.upper (Char.ofNat (97 + n))) = ['_', Char.ofNat (97 + n)]) = true := by
  decide +kernel

theorem spell_upper_of_isLower (h : c.isLower = true) : spell (Text.upper c) = ['_', c] := by
  have hrange := Text.toNat_of_isLower h
  exact of_decide_eq_true
    (Text.of_codes (p := fun c => spell (Text.upper c) = ['_', c]) spell_small_letters (by omega))

theorem isUpper_of_isPlainChar (h : isPlainChar c = true) : c.isUpper = false := by
  by_contra hupper
  have hrange := Text.toNat_of_isUpper (by simpa using hupper)
  rw [isPlainChar, Bool.or_eq_true] at h
  rcases h with h | h
  · have := Text.toNat_of_isLower h
    omega
  · have := Text.toNat_of_isDigit h
    omega

theorem spell_cons_of_isPlainChar (h : isPlainChar c = true) (t : Text) :
    spell (c :: t) = c :: spell t := by
  rw [spell, List.flatMap_cons, isUpper_of_isPlainChar h]
  rfl

/-- A word that starts here is read back with the underscore before it, if that is seen. -/
theorem spell_camelCase_cons (hd : isPlainChar d = true)
    (ht : spell (camelRest t) = joinDigits t) :
    spell (camelCase (d :: t)) = joinDigits ('_' :: d :: t) := by
  have hkeep := joinDigits_cons_of_ne (ne_underscore_of_isPlainChar hd) t
  rw [camelCase_cons (isSeparator_of_isPlainChar hd), joinDigits, hkeep]
  cases hdigit : d.isDigit with
  | true =>
    rw [if_pos ⟨rfl, hdigit⟩, upper_of_isDigit hdigit, List.singleton_append,
      spell_cons_of_isPlainChar hd, ht]
  | false =>
    have hlower : d.isLower = true := by rwa [isPlainChar, hdigit, Bool.or_false] at hd
    have hunseen : ¬('_' = '_' ∧ (d :: t).head?.any Char.isDigit = true) := by
      rintro ⟨-, hany⟩
      rw [List.head?_cons, Option.any_some, hdigit] at hany
      cases hany
    rw [if_neg hunseen, spell, List.flatMap_append, ← spell, ← spell,
      spell_upper_of_isLower hlower, ht]
    rfl

theorem spell_camelRest (h : IsNameTail t) : spell (camelRest t) = joinDigits t := by
  -- an underscore is read together with the character behind it
  induction t using List.twoStepInduction with
  | nil => rfl
  | singleton c =>
    have hc := List.all_eq_true.1 h.chars c List.mem_cons_self
    simp only [Bool.or_eq_true, beq_iff_eq] at hc
    rcases hc with hc | rfl
    · rw [camelRest_cons (isSeparator_of_isPlainChar hc), spell_cons_of_isPlainChar hc,
        joinDigits_cons_of_ne (ne_underscore_of_isPlainChar hc)]
      rfl
    · exact absurd rfl h.ending
  | cons_cons c d t iht ihd =>
    have hc := List.all_eq_true.1 h.chars c List.mem_cons_self
    simp only [Bool.or_eq_true, beq_iff_eq] at hc
    rcases hc with hc | rfl
    · rw [camelRest_cons (isSeparator_of_isPlainChar hc), spell_cons_of_isPlainChar hc,
        joinDigits_cons_of_ne (ne_underscore_of_isPlainChar hc), ihd d h.tail]
    · obtain ⟨d', u, heq, hd⟩ := h.after_underscore
      obtain ⟨rfl, rfl⟩ := List.cons.inj heq
      rw [camelRest_cons_sep (by decide), spell_camelCase_cons hd (iht h.tail.tail)]

/-- **The name of a field is read back from camel case**, up to the underscores before digits. -/
theorem spell_camelCase (h : IsFieldName t) : spell (camelCase t) = '_' :: joinDigits t := by
  obtain ⟨htail, hstart⟩ := h
  cases t with
  | nil => cases hstart
  | cons c t =>
    have hlower : c.isLower = true := hstart
    have hplain : isPlainChar c = true := by rw [isPlainChar, hlower, Bool.true_or]
    have hdigit : c.isDigit = false := by
      by_contra hdigit
      have h1 := Text.toNat_of_isLower hlower
      have h2 := Text.toNat_of_isDigit (by simpa using hdigit)
      omega
    rw [spell_camelCase_cons hplain (spell_camelRest htail.tail), joinDigits, if_neg]
    rintro ⟨-, hany⟩
    rw [List.head?_cons, Option.any_some, hdigit] at hany
    cases hany

theorem accessorName_eq_iff (ha : IsFieldName a) (hb : IsFieldName b) (verb : Text) :
    accessorName verb a = accessorName verb b ↔ joinDigits a = joinDigits b := by
  rw [accessorName, accessorName, List.append_cancel_left_eq]
  constructor
  · intro h
    have hspell : '_' :: joinDigits a = '_' :: joinDigits b := by
      rw [← spell_camelCase ha, ← spell_camelCase hb, h]
    exact (List.cons.inj hspell).2
  · intro h
    rw [← (camelCase_joinDigits a).1, h, (camelCase_joinDigits b).1]

end Naming

namespace JavaClass

open Naming (IsFieldName accessorName joinDigits)

/-- **Accessors meet where names differ by underscores before digits, and nowhere else.** Two
names that fields have by rule give one accessor if and only if they are the same without their
underscores before digits. So distinct names without such underscores have accessors of their own.
The accessors of a class are written under different names if and only if the names of its fields
are different without these underscores. -/
theorem accessors_meet_iff {a b : Text} (ha : IsFieldName a) (hb : IsFieldName b)
    {d : Definition} (hd : ∀ f ∈ d.fields, IsFieldName f.name) (v : Bindings) :
    (accessorName "with" a = accessorName "with" b ↔ joinDigits a = joinDigits b) ∧
    (a ≠ b → (a.IsChain fun x y => x = '_' → y.isDigit = false) →
      (b.IsChain fun x y => x = '_' → y.isDigit = false) →
        accessorName "with" a ≠ accessorName "with" b) ∧
    ((d.fields.map fun f => (v.extend (accessorValues f)).lookup ("methodName" : Text)).Nodup ↔
      (d.fields.map fun f => joinDigits f.name).Nodup) := by
  have hmeet := Naming.accessorName_eq_iff ha hb "with"
  refine ⟨hmeet, ?_, ?_⟩
  · intro hne hja hjb heq
    have hjoined : joinDigits a = joinDigits b := hmeet.1 heq
    rw [Naming.joinDigits_eq_self hja, Naming.joinDigits_eq_self hjb] at hjoined
    exact hne hjoined
  · rw [List.Nodup, List.Nodup, List.pairwise_map, List.pairwise_map]
    refine List.Pairwise.iff_of_mem fun {f g} hf hg => not_congr ?_
    rw [lookup_methodName, lookup_methodName, Option.some_inj]
    exact Naming.accessorName_eq_iff (hd f hf) (hd g hg) "with"

/-- Two fields of one type whose accessors meet, and a name that is told from theirs. -/
theorem accessors_meet_iff_digit :
    let a : Text := "x1"
    let b : Text := "x_1"
    let c : Text := "x_y"
    let int : FieldType := ⟨.primitive, "int", none, .single⟩
    let d : Definition :=
      { name := "p/A", fields := [⟨a, "int32", int, [], []⟩, ⟨b, "int32", int, [], []⟩] }
    (∀ f ∈ d.fields, IsFieldName f.name) ∧ IsFieldName c ∧ (d.fields.map (·.name)).Nodup ∧
      accessorName "with" a = accessorName "with" b ∧
      accessorName "with" a ≠ accessorName "with" c ∧
      ¬(d.fields.map fun f =>
        (Bindings.extend [] (accessorValues f)).lookup ("methodName" : Text)).Nodup := by
  intro a b c int d
  have ha : IsFieldName a := ⟨⟨by decide, by decide, by decide⟩, by decide⟩
  have hb : IsFieldName b := ⟨⟨by decide, by decide, by decide⟩, by decide⟩
  have hc : IsFieldName c := ⟨⟨by decide, by decide, by decide⟩, by decide⟩
  have hd : ∀ f ∈ d.fields, IsFieldName f.name :=
    List.forall_mem_cons.2 ⟨ha, List.forall_mem_singleton.2 hb⟩
  obtain ⟨hsame, -, hclass⟩ := accessors_meet_iff ha hb hd []
  obtain ⟨-, hother, -⟩ := accessors_meet_iff ha hc hd []
  refine ⟨hd, hc, by decide, hsame.2 (by decide), hother (by decide) (by decide) (by decide), ?_⟩
  intro hnodup
  exact absurd (hclass.1 hnodup) (by decide)

end JavaClass

end RosBindings

import Mathlib.Data.Nat.Bitwise
import RosBindings.Proofs.Names

/-!
# Camel case, word by word

Camel case takes a name word by word, and changes the first character of a word only. So it
sends names with a separator between them to their camel cases side by side, and it has nothing
left to do on a name in camel case.

The last point rests on the table of capitals, which is compared with itself and with the
separators, each as one set of code points.

* `Text.upper_of_mem_upper`: all characters of a capital form are their own capital forms.
* `isSeparator_of_mem_upper`: and none of them parts words.
* `camelCase_word_by_word`: the laws of camel case.
-/

namespace RosBindings

namespace Text

variable {c d : Char}

/-! ## Sets of code points -/

/-- A set of numbers as one number, with a bit for each of them. -/
def mask (ns : List ℕ) : ℕ := ns.foldr (fun n m => 2 ^ n ||| m) 0

theorem testBit_mask {n : ℕ} {ns : List ℕ} (h : n ∈ ns) : (mask ns).testBit n = true := by
  induction ns with
  | nil => cases h
  | cons m ns ih =>
    rw [mask, List.foldr_cons, Nat.testBit_or, ← mask]
    rcases List.mem_cons.1 h with rfl | h
    · rw [Nat.testBit_two_pow_self, Bool.true_or]
    · rw [ih h, Bool.or_true]

/-- Sets whose bits do not meet have no member in common. -/
theorem not_mem_of_mask {n : ℕ} {ns ms : List ℕ} (h : mask ns &&& mask ms = 0) (hn : n ∈ ns) :
    n ∉ ms := by
  intro hm
  have hbit : (mask ns &&& mask ms).testBit n = true := by
    rw [Nat.testBit_and, testBit_mask hn, testBit_mask hm, Bool.true_and]
  rw [h, Nat.zero_testBit] at hbit
  cases hbit

/-! ## The table of capitals -/

/-- The code points of a run. -/
def runCodes : ℕ × ℕ × ℕ × ℤ → List ℕ
  | (first, last, stride, _) => (List.range ((last - first) / stride + 1)).map (first + · * stride)

/-- The code points of the characters that have a capital form of their own. -/
def smallCodes : List ℕ := upperExpansions.map (·.1) ++ upperRuns.flatMap runCodes

/-- The characters that capital forms are made of. -/
def capitals : List Char :=
  upperExpansions.flatMap (fun e => e.2.map Char.ofNat)
    ++ upperRuns.flatMap fun run =>
      (runCodes run).map fun (n : ℕ) => Char.ofNat (n + run.2.2.2).toNat

theorem mem_runCodes {n : ℕ} {run : ℕ × ℕ × ℕ × ℤ} (h : runHolds n run = true) :
    n ∈ runCodes run := by
  obtain ⟨first, last, stride, distance⟩ := run
  simp only [runHolds, Bool.and_eq_true, decide_eq_true_eq, beq_iff_eq] at h
  obtain ⟨⟨hfirst, hlast⟩, hstride⟩ := h
  have hle : (n - first) / stride ≤ (last - first) / stride := Nat.div_le_div_right (by omega)
  refine List.mem_map.2 ⟨(n - first) / stride, List.mem_range.2 (by omega), ?_⟩
  have hmul : (n - first) / stride * stride = n - first :=
    Nat.div_mul_cancel (Nat.dvd_of_mod_eq_zero hstride)
  omega

theorem upper_of_not_mem (h : c.toNat ∉ smallCodes) : upper c = [c] := by
  rw [smallCodes, List.mem_append, not_or] at h
  have hlookup : upperExpansions.lookup c.toNat = none := by
    refine List.lookup_eq_none_iff.2 fun e he => ?_
    rw [bne_iff_ne]
    intro heq
    exact h.1 (List.mem_map.2 ⟨e, he, heq.symm⟩)
  have hfind : upperRuns.find? (runHolds c.toNat) = none := by
    refine List.find?_eq_none.2 fun run hrun hholds => ?_
    exact h.2 (List.mem_flatMap.2 ⟨run, hrun, mem_runCodes hholds⟩)
  rw [upper, hlookup, hfind]

theorem mem_capitals (hd : d ∈ upper c) : upper c = [c] ∨ d ∈ capitals := by
  unfold upper at hd ⊢
  split at hd
  · next ns hns =>
    exact .inr (List.mem_append_left _ (List.mem_flatMap.2 ⟨_, mem_of_lookup hns, hd⟩))
  · split at hd
    · next first last stride distance hrun =>
      obtain rfl := List.mem_singleton.1 hd
      have hcode := mem_runCodes (List.find?_some hrun)
      exact .inr (List.mem_append_right _ (List.mem_flatMap.2
        ⟨_, List.mem_of_find?_eq_some hrun, List.mem_map.2 ⟨_, hcode, rfl⟩⟩))
    · exact .inl rfl

theorem capitals_apart : mask (capitals.map Char.toNat) &&& mask smallCodes = 0 := by
  decide +kernel

theorem upperExpansions_ne_nil : upperExpansions.all (fun e => !e.2.isEmpty) = true := by
  decide +kernel

/-- **All characters of a capital form are their own capital forms.** -/
theorem upper_of_mem_upper (h : d ∈ upper c) : upper d = [d] := by
  rcases mem_capitals h with hc | hd
  · rw [hc, List.mem_singleton] at h
    rw [h, hc]
  · exact upper_of_not_mem (not_mem_of_mask capitals_apart (List.mem_map_of_mem hd))

theorem upper_ne_nil (c : Char) : upper c ≠ [] := by
  unfold upper
  split
  · next ns hns =>
    have hne := List.all_eq_true.1 upperExpansions_ne_nil _ (mem_of_lookup hns)
    simpa using hne
  · split <;> exact List.cons_ne_nil _ _

end Text

namespace Naming

variable {c d x : Char} {a b s t w : Text}

/-! ## Separators -/

/-- The code points of the separators. -/
def separatorCodes : List ℕ :=
  '_'.toNat :: '-'.toNat
    :: Text.blankRanges.flatMap fun range => List.range' range.1 (range.2 + 1 - range.1)

theorem mem_separatorCodes (h : isSeparator c = true) : c.toNat ∈ separatorCodes := by
  simp only [isSeparator, Bool.or_eq_true, beq_iff_eq] at h
  rcases h with (rfl | rfl) | hblank
  · exact List.mem_cons_self
  · exact List.mem_cons_of_mem _ List.mem_cons_self
  · obtain ⟨⟨lo, hi⟩, hrange, hin⟩ := List.any_eq_true.1 hblank
    simp only [Bool.and_eq_true, decide_eq_true_eq] at hin
    refine List.mem_cons_of_mem _ (List.mem_cons_of_mem _ (List.mem_flatMap.2 ⟨_, hrange, ?_⟩))
    rw [List.mem_range'_1]
    omega

theorem capitals_part_nothing :
    Text.mask (Text.capitals.map Char.toNat) &&& Text.mask separatorCodes = 0 := by
  decide +kernel

/-- **Capitals part no words.** -/
theorem isSeparator_of_mem_upper (hc : isSeparator c = false) (h : d ∈ Text.upper c) :
    isSeparator d = false := by
  rcases Text.mem_capitals h with hself | hd
  · rw [hself, List.mem_singleton] at h
    rw [h, hc]
  · by_contra hsep
    exact Text.not_mem_of_mask capitals_part_nothing (List.mem_map_of_mem hd)
      (mem_separatorCodes (by simpa using hsep))

/-! ## Words -/

theorem camelCase_append_cons (hc : isSeparator c = true) (a b : Text) :
    camelCase (a ++ c :: b) = camelCase a ++ camelCase b := by
  rw [camelCase, Text.words_append_cons hc, List.flatMap_append, ← camelCase, ← camelCase]

theorem camelCase_sep_append (hs : s.all isSeparator = true) (b : Text) :
    camelCase (s ++ b) = camelCase b := by
  rw [camelCase, Text.words_sep_append hs, ← camelCase]

/-- A name without separators is one word. -/
theorem camelCase_of_word (hw : ∀ x ∈ w, isSeparator x = false) : camelCase w = capitalize w := by
  rcases eq_or_ne w [] with rfl | hne
  · rfl
  · rw [camelCase, Text.words_of_word hw hne, List.flatMap_singleton]

theorem isSeparator_of_mem_camelCase (h : x ∈ camelCase t) : isSeparator x = false := by
  obtain ⟨w, hw, hx⟩ := List.mem_flatMap.1 h
  have hword : ∀ y ∈ w, isSeparator y = false := fun y hy => (Text.mem_of_mem_words hw hy).2
  cases w with
  | nil => cases hx
  | cons c w =>
    rw [List.forall_mem_cons] at hword
    rcases List.mem_append.1 hx with hx | hx
    · exact isSeparator_of_mem_upper hword.1 hx
    · exact hword.2 x hx

/-- **A name in camel case starts with a capital form**, if it has any words. -/
theorem camelCase_cases (t : Text) :
    t.all isSeparator = true ∧ camelCase t = [] ∨
      ∃ c u, camelCase t = c :: u ∧ Text.upper c = [c] := by
  cases hwords : Text.words isSeparator t with
  | nil => exact .inl ⟨Text.words_eq_nil_iff.1 hwords, by rw [camelCase, hwords]; rfl⟩
  | cons w ws =>
    have hw : w ∈ Text.words isSeparator t := by rw [hwords]; exact List.mem_cons_self
    have hne : w ≠ [] := by simpa using (List.mem_filter.1 hw).2
    obtain ⟨c, w, rfl⟩ := List.exists_cons_of_ne_nil hne
    obtain ⟨d, ds, hupper⟩ := List.exists_cons_of_ne_nil (Text.upper_ne_nil c)
    have hd : d ∈ Text.upper c := by rw [hupper]; exact List.mem_cons_self
    refine .inr ⟨d, ds ++ w ++ ws.flatMap capitalize, ?_, Text.upper_of_mem_upper hd⟩
    rw [camelCase, hwords, List.flatMap_cons, capitalize, hupper]
    rfl

theorem camelCase_eq_nil_iff : camelCase t = [] ↔ t.all isSeparator = true := by
  constructor
  · intro h
    rcases camelCase_cases t with ⟨hsep, -⟩ | ⟨c, u, hcamel, -⟩
    · exact hsep
    · rw [h] at hcamel
      cases hcamel
  · intro h
    rw [camelCase, Text.words_eq_nil_iff.2 h, List.flatMap_nil]

theorem camelCase_camelCase (t : Text) : camelCase (camelCase t) = camelCase t := by
  rw [camelCase_of_word fun x hx => isSeparator_of_mem_camelCase hx]
  rcases camelCase_cases t with ⟨-, hnil⟩ | ⟨c, u, hcamel, hupper⟩
  · rw [hnil]
    rfl
  · rw [hcamel, capitalize, hupper]
    rfl

/-- **Camel case goes word by word, and twice is once.** Separators between two names put their
camel cases side by side, and exactly the names that consist of separators have an empty one. A
single word gets the capital form of its first character and stays as it is otherwise. What is
in camel case stays as it is. -/
theorem camelCase_word_by_word :
    (∀ a b s : Text, s ≠ [] → s.all isSeparator = true →
      camelCase (a ++ s ++ b) = camelCase a ++ camelCase b) ∧
    (∀ s : Text, camelCase s = [] ↔ s.all isSeparator = true) ∧
    (∀ (c : Char) (w : Text), (∀ x ∈ c :: w, isSeparator x = false) →
      camelCase (c :: w) = Text.upper c ++ w) ∧
    ∀ t : Text, camelCase (camelCase t) = camelCase t := by
  refine ⟨?_, fun s => camelCase_eq_nil_iff, fun c w hw => camelCase_of_word hw,
    camelCase_camelCase⟩
  intro a b s hne hs
  obtain ⟨c, s, rfl⟩ := List.exists_cons_of_ne_nil hne
  rw [List.all_cons, Bool.and_eq_true] at hs
  calc camelCase (a ++ c :: s ++ b)
      = camelCase (a ++ c :: (s ++ b)) := by rw [List.append_assoc, List.cons_append]
    _ = camelCase a ++ camelCase (s ++ b) := camelCase_append_cons hs.1 a (s ++ b)
    _ = camelCase a ++ camelCase b := by rw [camelCase_sep_append hs.2]

/-- Mixed separators around a ligature, whose capital form has two characters. -/
theorem camelCase_word_by_word_ligature :
    let a : Text := "_my"
    let b : Text := "ﬁeld_ID"
    let s : Text := "-_\t"
    s ≠ [] ∧ s.all isSeparator = true ∧
      camelCase (a ++ s ++ b) = "My" ++ "FIeldID" ∧ camelCase s = [] ∧
      camelCase (camelCase b) = camelCase b := by
  intro a b s
  have hs : s.all isSeparator = true := by decide
  refine ⟨by decide, hs, ?_, (camelCase_word_by_word.2.1 s).2 hs,
    camelCase_word_by_word.2.2.2 b⟩
  have ha : camelCase a = "My" := by decide +kernel
  have hb : camelCase b = "FIeldID" := by decide +kernel
  rw [camelCase_word_by_word.1 a b s (by decide) hs, ha, hb]

end Naming

end RosBindings

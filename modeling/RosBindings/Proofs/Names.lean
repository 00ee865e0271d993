import RosBindings.Naming
import RosBindings.Proofs.Text

/-!
# Characters of generated names

* `upper_cases`: a capital form is the character itself or made of letters, so capitals
  bring no sign, digit or blank into a name.
* `mem_className` and `mem_accessorName`: what a generated name consists of.
* `className_append_slash`: a class is named by the last segment of its message.
* `className_eq`: a message that is named by the convention has a class of its own name.
-/

namespace RosBindings

namespace Text

/-- Whether a code is that of a letter of ASCII or of a character outside ASCII. -/
def isLetterCode (n : Nat) : Bool :=
  0x41 ≤ n && n ≤ 0x5A || 0x61 ≤ n && n ≤ 0x7A || 0x80 ≤ n

/-- Whether a run leads to capitals of ASCII or to characters outside ASCII, all of them code
points of characters. -/
def runLeadsUp : Nat × Nat × Nat × Int → Bool
  | (first, last, _, distance) =>
    0x41 ≤ first + distance && last + distance ≤ 0x5A ||
      0x80 ≤ first + distance && (last + distance < 0xD800 ||
        0xDFFF < first + distance && last + distance < 0x110000)

theorem runLeadsUp_upperRuns : upperRuns.all runLeadsUp = true := by decide +kernel

theorem upperExpansions_lead_up :
    upperExpansions.all (fun e => e.2.all fun n => isLetterCode (Char.ofNat n).toNat) = true := by
  decide +kernel

/-- **A capital form is the character itself, or it is made of letters.** -/
theorem upper_cases (c : Char) : upper c = [c] ∨ ∀ d ∈ upper c, isLetterCode d.toNat = true := by
  unfold upper
  split
  · next ns hns =>
    refine .inr fun d hd => ?_
    obtain ⟨n, hn, rfl⟩ := List.mem_map.1 hd
    have hall := List.all_eq_true.1 upperExpansions_lead_up _ (mem_of_lookup hns)
    simpa using List.all_eq_true.1 hall n hn
  · split
    · next first last stride distance hrun =>
      refine .inr fun d hd => ?_
      obtain rfl : d = Char.ofNat (c.toNat + distance).toNat := by simpa using hd
      -- the table is read once, and what is left is arithmetic on one run
      have hup := List.all_eq_true.1 runLeadsUp_upperRuns _ (List.mem_of_find?_eq_some hrun)
      have hholds := List.find?_some hrun
      simp only [runLeadsUp, Bool.and_eq_true, Bool.or_eq_true, decide_eq_true_eq] at hup
      simp only [runHolds, Bool.and_eq_true, decide_eq_true_eq] at hholds
      have hvalid : (c.toNat + distance).toNat.isValidChar := by
        unfold Nat.isValidChar; omega
      have hnat : (Char.ofNat (c.toNat + distance).toNat).toNat = (c.toNat + distance).toNat := by
        rw [Char.ofNat, dif_pos hvalid]; rfl
      simp only [isLetterCode, hnat, Bool.or_eq_true, Bool.and_eq_true, decide_eq_true_eq]
      omega
    · exact .inl rfl

theorem upper_capitals :
    (List.range 26).all (fun n => upper (Char.ofNat (65 + n)) = [Char.ofNat (65 + n)]) = true := by
  decide +kernel

theorem toNat_between {c : Char} {lo hi : UInt32} (h : c.val ≥ lo ∧ c.val ≤ hi) :
    lo.toNat ≤ c.toNat ∧ c.toNat ≤ hi.toNat :=
  ⟨UInt32.le_iff_toNat_le.1 h.1, UInt32.le_iff_toNat_le.1 h.2⟩

theorem toNat_of_isUpper {c : Char} (h : c.isUpper = true) : 65 ≤ c.toNat ∧ c.toNat ≤ 90 :=
  toNat_between (of_decide_eq_true h)

theorem toNat_of_isLower {c : Char} (h : c.isLower = true) : 97 ≤ c.toNat ∧ c.toNat ≤ 122 := by
  unfold Char.isLower at h
  rw [Bool.and_eq_true, decide_eq_true_eq, decide_eq_true_eq] at h
  exact toNat_between h

theorem toNat_of_isDigit {c : Char} (h : c.isDigit = true) : 48 ≤ c.toNat ∧ c.toNat ≤ 57 := by
  unfold Char.isDigit at h
  rw [Bool.and_eq_true, decide_eq_true_eq, decide_eq_true_eq] at h
  exact toNat_between h

/-- What evaluation shows for a range of code points holds for their characters. -/
theorem of_codes {p : Char → Bool} {c : Char} {first count : ℕ}
    (hall : (List.range count).all (fun n => p (Char.ofNat (first + n))) = true)
    (h : first ≤ c.toNat ∧ c.toNat < first + count) : p c = true := by
  have hc : Char.ofNat (first + (c.toNat - first)) = c := by
    rw [Nat.add_sub_cancel' h.1, Char.ofNat_toNat]
  have hn := List.all_eq_true.1 hall (c.toNat - first) (List.mem_range.2 (by omega))
  rwa [hc] at hn

/-- A capital is its own capital form. -/
theorem upper_of_isUpper {c : Char} (h : c.isUpper = true) : upper c = [c] := by
  have hrange := toNat_of_isUpper h
  exact of_decide_eq_true (of_codes (p := fun c => upper c = [c]) upper_capitals (by omega))

end Text

namespace Naming

variable {t path verb field : Text} {x : Char}

/-- Camel case keeps characters that part no words, and adds capitals. -/
theorem mem_camelCase (h : x ∈ camelCase t) :
    (x ∈ t ∧ isSeparator x = false) ∨ Text.isLetterCode x.toNat = true := by
  obtain ⟨w, hw, hx⟩ := List.mem_flatMap.1 h
  rcases w with _ | ⟨c, w⟩
  · simp [capitalize] at hx
  · rw [capitalize, List.mem_append] at hx
    rcases hx with hx | hx
    · rcases Text.upper_cases c with hc | hc
      · rw [hc, List.mem_singleton] at hx
        exact .inl (Text.mem_of_mem_words hw (hx ▸ List.mem_cons_self))
      · exact .inr (hc x hx)
    · exact .inl (Text.mem_of_mem_words hw (List.mem_cons_of_mem c hx))

theorem mem_baseName (h : x ∈ baseName path) : x ∈ path ∨ x = '/' := by
  -- back through the extension, the segments and the slashes
  have hname : x ∈ (Path.ofText (unifySlashes path)).name := by
    simp only [baseName] at h
    cases hs : Text.beforeSuffix? extension (Path.ofText (unifySlashes path)).name with
    | none => rwa [hs] at h
    | some t =>
      rw [hs] at h
      rw [Text.beforeSuffix?, List.isSuffixOf?_eq_some_iff_append_eq] at hs
      rw [← hs]
      exact List.mem_append_left _ h
  have hslash : x ∈ unifySlashes path := by
    rw [Path.name, Path.ofText] at hname
    cases hl : (Path.segmentsOf (unifySlashes path)).getLast? with
    | none => rw [hl] at hname; simp at hname
    | some w =>
      rw [hl, Option.getD_some] at hname
      have hw := List.mem_of_mem_filter (List.mem_of_getLast? hl)
      exact (Text.mem_of_mem_words hw hname).1
  obtain ⟨y, hy, rfl⟩ := List.mem_map.1 hslash
  split
  · exact .inr rfl
  · exact .inl hy

/-- **What a class name consists of.** -/
theorem mem_className (h : x ∈ className path) :
    ((x ∈ path ∨ x = '/') ∧ isSeparator x = false) ∨ Text.isLetterCode x.toNat = true := by
  rcases List.mem_append.1 h with h | h
  · exact (mem_camelCase h).imp_left fun h => ⟨mem_baseName h.1, h.2⟩
  · have hall : classSuffix.all (fun x => Text.isLetterCode x.toNat) = true := by decide
    exact .inr (List.all_eq_true.1 hall x h)

theorem not_mem_className (h : x ∈ path → isSeparator x = true) (hslash : x ≠ '/')
    (hup : Text.isLetterCode x.toNat = false) : x ∉ className path := by
  intro hx
  rcases mem_className hx with ⟨hx | hx, hsep⟩ | hx
  · rw [h hx] at hsep; cases hsep
  · exact hslash hx
  · rw [hup] at hx; cases hx

theorem feed_not_mem_className (path : Text) : '\n' ∉ className path :=
  not_mem_className (fun _ => by decide) (by decide) (by decide)

theorem slash_not_mem_baseName (path : Text) : '/' ∉ baseName path := by
  have hname : '/' ∉ (Path.ofText (unifySlashes path)).name := by
    intro h
    rw [Path.name, Path.ofText] at h
    cases hl : (Path.segmentsOf (unifySlashes path)).getLast? with
    | none => rw [hl] at h; cases h
    | some segment =>
      rw [hl, Option.getD_some] at h
      have hw := List.mem_of_mem_filter (List.mem_of_getLast? hl)
      simpa using (Text.mem_of_mem_words hw h).2
  simp only [baseName]
  cases hs : Text.beforeSuffix? extension (Path.ofText (unifySlashes path)).name with
  | none => exact hname
  | some t =>
    rw [Text.beforeSuffix?, List.isSuffixOf?_eq_some_iff_append_eq] at hs
    rw [← hs] at hname
    exact fun h => hname (List.mem_append_left _ h)

/-- **A class name is one segment of a path.** -/
theorem slash_not_mem_className (path : Text) : '/' ∉ className path := by
  intro h
  rcases List.mem_append.1 h with h | h
  · rcases mem_camelCase h with ⟨hbase, -⟩ | hup
    · exact slash_not_mem_baseName path hbase
    · exact absurd hup (by decide)
  · revert h; decide

/-- **What the name of an accessor consists of.** -/
theorem mem_accessorName (h : x ∈ accessorName verb field) :
    x ∈ verb ∨ (x ∈ field ∧ isSeparator x = false) ∨ Text.isLetterCode x.toNat = true :=
  (List.mem_append.1 h).imp_right mem_camelCase

theorem not_mem_accessorName (hverb : x ∉ verb) (hfield : x ∉ field)
    (hletter : Text.isLetterCode x.toNat = false) : x ∉ accessorName verb field := by
  intro hx
  rcases mem_accessorName hx with hx | ⟨hx, -⟩ | hx
  · exact hverb hx
  · exact hfield hx
  · rw [hletter] at hx; cases hx

/-! ## Segments of a message path -/

variable {name : Text}

theorem unifySlashes_of_not_mem (h : '\\' ∉ path) : unifySlashes path = path := by
  conv_rhs => rw [← List.map_id path]
  refine List.map_congr_left fun c hc => if_neg ?_
  rintro rfl
  exact h hc

theorem segmentsOf_unifySlashes_append (before last : Text) :
    Path.segmentsOf (unifySlashes (before ++ '/' :: last)) =
      Path.segmentsOf (unifySlashes before) ++ Path.segmentsOf (unifySlashes last) := by
  have hunify : unifySlashes (before ++ '/' :: last) =
      unifySlashes before ++ '/' :: unifySlashes last := by
    simp [unifySlashes]
  rw [hunify, Path.segmentsOf, Text.words_append_cons rfl, List.filter_append]
  rfl

/-- Slashes at the ends lead nowhere. -/
theorem segmentsOf_unifySlashes_around {left right : Text} (hl : left.all (· == '/') = true)
    (hr : right.all (· == '/') = true) (path : Text) :
    Path.segmentsOf (unifySlashes (left ++ path ++ right)) =
      Path.segmentsOf (unifySlashes path) := by
  have hsame : ∀ {slashes : Text}, slashes.all (· == '/') = true →
      unifySlashes slashes = slashes := by
    intro slashes h
    refine unifySlashes_of_not_mem fun hback => ?_
    have hfalse := List.all_eq_true.1 h _ hback
    revert hfalse
    decide
  have hunify : unifySlashes (left ++ path ++ right) = left ++ unifySlashes path ++ right := by
    rw [unifySlashes, List.map_append, List.map_append, ← unifySlashes, ← unifySlashes,
      ← unifySlashes, hsame hl, hsame hr]
  rw [hunify, Path.segmentsOf, Text.words_append_sep_end hr, Text.words_sep_append hl,
    ← Path.segmentsOf]

/-- Any character but dots and slashes leads somewhere. -/
theorem segmentsOf_ne_nil {segment : Text} {c : Char} (hc : c ∈ segment) (hdot : c ≠ '.')
    (hslash : c ≠ '/') (hback : c ≠ '\\') : Path.segmentsOf (unifySlashes segment) ≠ [] := by
  have hunify : c ∈ unifySlashes segment := by
    have hmem := List.mem_map_of_mem (f := fun c => if c = '\\' then '/' else c) hc
    rwa [if_neg hback] at hmem
  obtain ⟨w, hw, hcw⟩ : ∃ w ∈ Text.words (· == '/') (unifySlashes segment), c ∈ w :=
    Text.exists_word_of_mem hunify (by simpa using hslash)
  have hne : w ≠ ['.'] := by
    rintro rfl
    exact hdot (List.mem_singleton.1 hcw)
  have hmem : w ∈ Path.segmentsOf (unifySlashes segment) :=
    List.mem_filter.2 ⟨hw, by simpa using hne⟩
  exact List.ne_nil_of_mem hmem

/-- **A message is called by its last segment**, as long as this leads anywhere. -/
theorem baseName_append_slash (before : Text) {last : Text}
    (h : Path.segmentsOf (unifySlashes last) ≠ []) :
    baseName (before ++ '/' :: last) = baseName last := by
  have hname : (Path.ofText (unifySlashes (before ++ '/' :: last))).name =
      (Path.ofText (unifySlashes last)).name := by
    rw [Path.name, Path.name, Path.ofText, Path.ofText, segmentsOf_unifySlashes_append,
      List.getLast?_append_of_ne_nil _ h]
  rw [baseName, baseName, hname]

theorem className_append_slash (before : Text) {last : Text}
    (h : Path.segmentsOf (unifySlashes last) ≠ []) :
    className (before ++ '/' :: last) = className last := by
  rw [className, className, baseName_append_slash before h]

theorem className_slashes_around {left right : Text} (hl : left.all (· == '/') = true)
    (hr : right.all (· == '/') = true) (path : Text) :
    className (left ++ path ++ right) = className path := by
  rw [className, className, baseName, baseName, Path.name, Path.name, Path.ofText, Path.ofText,
    segmentsOf_unifySlashes_around hl hr]

/-- A text that is one segment of a message path. -/
structure IsSegment (name : Text) : Prop where
  ne_nil : name ≠ []
  ne_self : name ≠ ['.']
  slash : '/' ∉ name
  backslash : '\\' ∉ name

namespace IsSegment

theorem segmentsOf_eq (h : IsSegment name) : Path.segmentsOf (unifySlashes name) = [name] := by
  have hword : Text.words (· == '/') name = [name] :=
    Text.words_of_word (Text.beq_eq_false_of_not_mem h.slash) h.ne_nil
  rw [unifySlashes_of_not_mem h.backslash, Path.segmentsOf, hword,
    List.filter_cons_of_pos (by simpa using h.ne_self), List.filter_nil]

theorem segments_ne_nil (h : IsSegment name) : Path.segmentsOf (unifySlashes name) ≠ [] := by
  rw [h.segmentsOf_eq]
  exact List.cons_ne_nil name []

end IsSegment

/-! ## Conventional names -/

/-- A name that messages have by convention: a capital letter, then letters and digits. -/
def IsTypeName (name : Text) : Prop :=
  (∃ c cs, name = c :: cs ∧ c.isUpper = true) ∧ name.all Char.isAlphanum = true

/-- Letters and digits part no words and no segments. -/
theorem of_isAlphanum {c : Char} (h : c.isAlphanum = true) :
    isSeparator c = false ∧ c ≠ '/' ∧ c ≠ '\\' ∧ c ≠ '.' := by
  have hkinds : ((c.isUpper || c.isLower) || c.isDigit) = true := h
  have hrange : (65 ≤ c.toNat ∧ c.toNat ≤ 90 ∨ 97 ≤ c.toNat ∧ c.toNat ≤ 122) ∨
      48 ≤ c.toNat ∧ c.toNat ≤ 57 := by
    rw [Bool.or_eq_true, Bool.or_eq_true] at hkinds
    rcases hkinds with (hupper | hlower) | hdigit
    · exact .inl (.inl (Text.toNat_of_isUpper hupper))
    · exact .inl (.inr (Text.toNat_of_isLower hlower))
    · exact .inr (Text.toNat_of_isDigit hdigit)
  have hne : ∀ d : Char, c.toNat ≠ d.toNat → c ≠ d := by
    rintro d hd rfl
    exact hd rfl
  have hof : ∀ d ∈ ['_', '-', '/', '\\', '.'], c ≠ d := by
    intro d hd
    refine hne d ?_
    simp only [List.mem_cons, List.not_mem_nil, or_false] at hd
    rcases hd with rfl | rfl | rfl | rfl | rfl <;> simp only [Char.reduceToNat] <;> omega
  have hblank : Text.isBlank c = false := by
    simp only [Text.isBlank, Text.blankRanges, List.any_cons, List.any_nil, Bool.or_false,
      Bool.or_eq_false_iff, Bool.and_eq_false_iff, decide_eq_false_iff_not]
    omega
  refine ⟨?_, hof _ (by simp), hof _ (by simp), hof _ (by simp)⟩
  rw [isSeparator, hblank, Bool.or_false, Bool.or_eq_false_iff, beq_eq_false_iff_ne,
    beq_eq_false_iff_ne]
  exact ⟨hof _ (by simp), hof _ (by simp)⟩

namespace IsTypeName

theorem not_mem (h : IsTypeName name) : '/' ∉ name ∧ '\\' ∉ name ∧ '.' ∉ name := by
  have hchars : ∀ c ∈ name, _ := fun c hc => of_isAlphanum (List.all_eq_true.1 h.2 c hc)
  exact ⟨fun hc => (hchars _ hc).2.1 rfl, fun hc => (hchars _ hc).2.2.1 rfl,
    fun hc => (hchars _ hc).2.2.2 rfl⟩

theorem camelCase_eq (h : IsTypeName name) : camelCase name = name := by
  obtain ⟨⟨c, cs, rfl, hc⟩, hall⟩ := h
  have hword : ∀ x ∈ c :: cs, isSeparator x = false :=
    fun x hx => (of_isAlphanum (List.all_eq_true.1 hall x hx)).1
  rw [camelCase, Text.words_of_word hword (List.cons_ne_nil c cs), List.flatMap_singleton,
    capitalize, Text.upper_of_isUpper hc]
  rfl

theorem baseName_eq (h : IsTypeName name) (package : Text) :
    baseName (package ++ '/' :: name) = name := by
  obtain ⟨hslash, hback, hdot⟩ := h.not_mem
  obtain ⟨⟨c, cs, hname, -⟩, -⟩ := h
  have hsegment : IsSegment name := by
    refine ⟨by rw [hname]; exact List.cons_ne_nil c cs, ?_, hslash, hback⟩
    rintro rfl
    exact hdot List.mem_cons_self
  have hsuffix : Text.beforeSuffix? extension name = none := by
    rw [Option.eq_none_iff_forall_ne_some]
    intro t ht
    rw [Text.beforeSuffix?, List.isSuffixOf?_eq_some_iff_append_eq] at ht
    refine hdot ?_
    rw [← ht]
    exact List.mem_append_right _ (by decide)
  rw [baseName_append_slash package hsegment.segments_ne_nil, baseName, Path.name, Path.ofText,
    hsegment.segmentsOf_eq]
  simp only [List.getLast?_singleton, Option.getD_some, hsuffix, Option.getD_none]

/-- **A message of a conventional name has a class of its own name.** -/
theorem className_eq (h : IsTypeName name) (package : Text) :
    className (package ++ '/' :: name) = name ++ classSuffix := by
  rw [className, h.baseName_eq package, h.camelCase_eq]

end IsTypeName

end Naming

end RosBindings

import RosBindings.Proofs.Markers

/-!
# Types of tokens

* `EndsInBound`, `dropLengthBound_eq_self`: without a length bound at its end an element is
  taken as it stands.
* `Origin`, `ofToken_origin`: a type is a primitive, a class of a package below the runtime, or
  a class of the same package; `Origin.feed_not_mem_name`: its name stands in one row.
* `ImportFits`: how the import path of a type depends on the rest of it; `markers_orthogonal`:
  an array marker changes the arity of a type and nothing else.
-/

namespace RosBindings

namespace FieldType

variable {runtime element token t : Text} {type : FieldType} {c : Char}

/-! ## Length bounds -/

/-- Whether a text ends in a bound on a length. -/
def EndsInBound (t : Text) : Prop :=
  ∃ digits : Text, digits ≠ [] ∧ (∀ c ∈ digits, Text.isDecimal c = true) ∧
    ("<=" : Text) ++ digits <:+ t

theorem EndsInBound.exists_last (h : EndsInBound t) :
    ∃ c, t.getLast? = some c ∧ Text.isDecimal c = true := by
  obtain ⟨digits, hne, hdecimal, before, rfl⟩ := h
  rw [← List.append_assoc]
  exact Text.exists_last_of_decimal hne hdecimal _

theorem beforeBound?_eq_none (hb : ∀ c ∈ t, Text.isBlank c = false) (h : ¬ EndsInBound t) :
    beforeBound? t = none := by
  have hsplit : Text.trimEndBy Text.isDecimal t ++ t.rtakeWhile Text.isDecimal = t :=
    List.rdropWhile_append_rtakeWhile
  -- blanks may stand before the digits of a bound, but there are none
  have hblank : Text.trimEndBy Text.isBlank (Text.trimEndBy Text.isDecimal t) =
      Text.trimEndBy Text.isDecimal t := by
    rw [Text.trimEndBy_eq Text.isBlank, List.rdropWhile_eq_self_iff]
    intro hne
    have hlast := (List.rdropWhile_prefix Text.isDecimal t).subset (List.getLast_mem hne)
    rw [hb _ hlast]
    exact Bool.false_ne_true
  unfold beforeBound?
  simp only
  split
  · next hlt =>
    rw [hblank, Option.eq_none_iff_forall_ne_some]
    intro u hu
    rw [Text.beforeSuffix?, List.isSuffixOf?_eq_some_iff_append_eq] at hu
    refine h ⟨t.rtakeWhile Text.isDecimal, ?_, fun c hc => List.mem_rtakeWhile_imp hc, u, ?_⟩
    · intro hnil
      rw [hnil, List.append_nil] at hsplit
      rw [hsplit] at hlt
      exact lt_irrefl _ hlt
    · rw [← List.append_assoc, hu, hsplit]
  · rfl

/-- **An element without a length bound is taken as it stands.** -/
theorem dropLengthBound_eq_self (hb : ∀ c ∈ t, Text.isBlank c = false) (h : ¬ EndsInBound t) :
    dropLengthBound t = t := by
  have hfeed : Text.beforeSuffix? ['\n'] t = none := by
    rw [Option.eq_none_iff_forall_ne_some]
    intro u hu
    rw [Text.beforeSuffix?, List.isSuffixOf?_eq_some_iff_append_eq] at hu
    have hmem : '\n' ∈ t := by rw [← hu]; simp
    exact absurd (hb _ hmem) (by decide)
  rw [dropLengthBound, beforeBound?_eq_none hb h]
  simp only [hfeed]

/-- A bound at the end of a path is one at the end of its last segment. -/
theorem EndsInBound.of_append_slash {before last : Text} (h : EndsInBound (before ++ '/' :: last)) :
    EndsInBound last := by
  obtain ⟨digits, hne, hdecimal, hsuffix⟩ := h
  have hslash : '/' ∉ ("<=" : Text) ++ digits := by
    intro hmem
    rcases List.mem_append.1 hmem with hmem | hmem
    · revert hmem
      decide
    · exact absurd (hdecimal _ hmem) (by decide)
  refine ⟨digits, hne, hdecimal, ?_⟩
  have hend : '/' :: last <:+ before ++ '/' :: last := List.suffix_append before _
  rcases List.suffix_or_suffix_of_suffix hsuffix hend with hs | hs
  · rcases List.suffix_cons_iff.1 hs with heq | hs
    · rw [heq] at hslash
      exact absurd List.mem_cons_self hslash
    · exact hs
  · exact absurd (hs.subset List.mem_cons_self) hslash

theorem mem_of_beforeBound? {u : Text} (h : beforeBound? t = some u) (hc : c ∈ u) : c ∈ t := by
  unfold beforeBound? at h
  simp only at h
  split at h
  · rw [Text.beforeSuffix?, List.isSuffixOf?_eq_some_iff_append_eq] at h
    have hdigits : Text.trimEndBy Text.isDecimal t <+: t := List.rdropWhile_prefix _ t
    have hblanks : Text.trimEndBy Text.isBlank (Text.trimEndBy Text.isDecimal t) <+:
        Text.trimEndBy Text.isDecimal t := List.rdropWhile_prefix _ _
    refine (hblanks.trans hdigits).subset ?_
    rw [← h]
    exact List.mem_append_left _ hc
  · cases h

theorem mem_dropLengthBound (h : c ∈ dropLengthBound t) : c ∈ t := by
  unfold dropLengthBound at h
  split at h
  · next u hu => exact mem_of_beforeBound? hu h
  · split at h
    · exact h
    · next u hu =>
      rw [Text.beforeSuffix?, List.isSuffixOf?_eq_some_iff_append_eq] at hu
      split at h
      · next v hv =>
        rw [← hu]
        rcases List.mem_append.1 h with h | h
        · exact List.mem_append_left _ (mem_of_beforeBound? hv h)
        · exact List.mem_append_right _ h
      · exact h

/-! ## Where a type comes from -/

theorem qualified_three (a b c : Text) : qualified [a, b, c] = a ++ '.' :: (b ++ '.' :: c) := by
  simp [qualified, Text.join, List.intercalate]

/-- The packages of the runtime that a type may come from without naming them. -/
def knownPackages : List Text := ["std_msgs", "primitives"]

/-- The classes of these packages. -/
def fixedNames : List Text := ["Time", "Duration", "StringMessage", "HeaderMessage"]

/-- What a type is: a primitive, a class that is imported from a package below the runtime, or a
class of the same package. -/
inductive Origin (runtime token : Text) (type : FieldType) : Prop
  | primitive (kind : type.kind = .primitive) (path : type.importPath = none)
    (name : type.name ∈ primitives.map (·.2))
  | imported (package : Text) (kind : type.kind ≠ .sibling)
    (path : type.importPath = some (qualified [runtime, package, type.name]))
    (known : package ∈ knownPackages ∨ ∀ c ∈ package, c ∈ token)
    (name : type.name ∈ fixedNames ∨ ∃ segment, type.name = Naming.className segment)
  | sibling (kind : type.kind = .sibling) (path : type.importPath = none)
    (name : ∃ segment, type.name = Naming.className segment)

theorem known_of_lookup {entries : List (Text × Text × Text)} {key package name : Text}
    (hall : entries.all (fun e => knownPackages.contains e.2.1 && fixedNames.contains e.2.2) = true)
    (h : entries.lookup key = some (package, name)) :
    package ∈ knownPackages ∧ name ∈ fixedNames := by
  have hentry := List.all_eq_true.1 hall _ (Text.mem_of_lookup h)
  rwa [Bool.and_eq_true, List.contains_iff_mem, List.contains_iff_mem] at hentry

theorem ofElement_origin (runtime element : Text) (arity : Arity) :
    Origin runtime element (ofElement runtime element arity) := by
  unfold ofElement
  simp only
  split
  · next name hname => exact .primitive rfl rfl (List.mem_map_of_mem (Text.mem_of_lookup hname))
  · split
    · next package name hbasic =>
      obtain ⟨hpackage, hname⟩ := known_of_lookup (by decide) hbasic
      exact .imported package (by simp) rfl (.inl hpackage) (.inl hname)
    · split
      · -- the package is the first segment of the element
        refine .imported _ (by simp) rfl (.inr fun c hc => ?_) (.inr ⟨_, rfl⟩)
        obtain ⟨first, rest, hpieces⟩ := List.exists_cons_of_ne_nil
          (Text.pieces_ne_nil (· == '/') (dropLengthBound element))
        rw [hpieces, List.head?_cons, Option.getD_some] at hc
        have hfirst : first ∈ Text.pieces (· == '/') (dropLengthBound element) := by
          rw [hpieces]; exact List.mem_cons_self
        exact mem_dropLengthBound (Text.mem_of_mem_pieces hfirst hc).1
      · split
        · next package name hstandard =>
          obtain ⟨hpackage, hname⟩ := known_of_lookup (by decide) hstandard
          exact .imported package (by simp) rfl (.inl hpackage) (.inl hname)
        · exact .sibling rfl rfl ⟨_, rfl⟩

/-- A token is split into itself, or into what stands before its marker and the arity of that. -/
theorem splitArray_cases {arity : Arity} (h : splitArray token = .ok (element, arity)) :
    (element = token ∧ arity = .single) ∨
      ∃ bound, Brackets token element bound ∧ boundArity token bound = .ok arity := by
  unfold splitArray at h
  split at h
  · cases h
    exact .inl ⟨rfl, rfl⟩
  · split at h
    · cases h
    · next element' bound hmarker =>
      cases hb : boundArity token bound with
      | error e => rw [hb] at h; cases h
      | ok arity' =>
        rw [hb] at h
        cases h
        exact .inr ⟨bound, splitMarker?_eq_some_iff.1 hmarker, hb⟩

theorem mem_of_splitArray {arity : Arity} (h : splitArray token = .ok (element, arity))
    (hc : c ∈ element) : c ∈ token := by
  rcases splitArray_cases h with ⟨rfl, -⟩ | ⟨bound, hbrackets, -⟩
  · exact hc
  · rw [hbrackets.spelled]
    exact List.mem_append_left _ hc

/-- **What the type of a token is.** -/
theorem ofToken_origin (h : ofToken runtime token = .ok type) : Origin runtime token type := by
  unfold ofToken at h
  cases hs : splitArray (Text.trim token) with
  | error e => rw [hs] at h; cases h
  | ok split =>
    obtain ⟨element, arity⟩ := split
    rw [hs] at h
    cases h
    cases ofElement_origin runtime element arity with
    | primitive kind path name => exact .primitive kind path name
    | imported package kind path known name =>
      refine .imported package kind path (known.imp_right fun hall c hc => ?_) name
      exact Text.mem_of_mem_trim (mem_of_splitArray hs (hall c hc))
    | sibling kind path name => exact .sibling kind path name

/-- The name of a type stands in one row. -/
theorem Origin.feed_not_mem_name (h : Origin runtime token type) : '\n' ∉ type.name := by
  have hclass : ∀ {name}, (∃ segment, name = Naming.className segment) → '\n' ∉ name := by
    rintro name ⟨segment, rfl⟩
    exact Naming.feed_not_mem_className segment
  cases h with
  | primitive kind path name => exact Text.not_mem_of_all (by decide) name
  | imported package kind path known name =>
    exact name.elim (Text.not_mem_of_all (by decide)) hclass
  | sibling kind path name => exact hclass name

/-! ## Elements and markers -/

/-- The arity goes into a type as it is, and nothing else depends on it. -/
theorem ofElement_eq (runtime element : Text) (arity : Arity) :
    ofElement runtime element arity = { ofElement runtime element .single with arity := arity } := by
  unfold ofElement
  simp only
  cases primitives.lookup (dropLengthBound element) with
  | some name => rfl
  | none =>
    cases basics.lookup (dropLengthBound element) with
    | some entry => rfl
    | none =>
      simp only
      split
      · rfl
      · cases standards.lookup (dropLengthBound element) with
        | some entry => rfl
        | none => rfl

/-- **No size that is read is too long to be written.** -/
theorem isShort_of_ofToken (h : ofToken runtime token = .ok type) : IsShort type.arity.size := by
  unfold ofToken at h
  cases hs : splitArray (Text.trim token) with
  | error e => rw [hs] at h; cases h
  | ok split =>
    obtain ⟨element, arity⟩ := split
    rw [hs] at h
    cases h
    have harity : (ofElement runtime element arity).arity = arity := by rw [ofElement_eq]
    change IsShort (ofElement runtime element arity).arity.size
    rw [harity]
    rcases splitArray_cases hs with ⟨-, rfl⟩ | ⟨bound, -, hb⟩
    · exact Bound.free.isShort_size
    · exact isShort_of_boundArity hb

/-- **A type is imported** from below the runtime under its own name, unless it is a primitive or
a class of the same package. -/
structure ImportFits (runtime : Text) (type : FieldType) : Prop where
  absent : type.importPath = none ↔ type.kind = .primitive ∨ type.kind = .sibling
  path : ∀ path, type.importPath = some path →
    runtime ++ ['.'] <+: path ∧ '.' :: type.name <:+ path

theorem ImportFits.of_none (hkind : type.kind = .primitive ∨ type.kind = .sibling)
    (hpath : type.importPath = none) : ImportFits runtime type := by
  refine ⟨iff_of_true hpath hkind, fun path h => ?_⟩
  rw [hpath] at h
  cases h

theorem ImportFits.of_qualified {package : Text} (hprimitive : type.kind ≠ .primitive)
    (hsibling : type.kind ≠ .sibling)
    (hpath : type.importPath = some (qualified [runtime, package, type.name])) :
    ImportFits runtime type := by
  refine ⟨iff_of_false (by simp [hpath]) (not_or.2 ⟨hprimitive, hsibling⟩), fun path h => ?_⟩
  rw [hpath, Option.some.injEq, qualified_three] at h
  rw [← h]
  refine ⟨⟨package ++ '.' :: type.name, by simp⟩, ⟨runtime ++ '.' :: package, by simp⟩⟩

theorem ofElement_importFits (runtime element : Text) (arity : Arity) :
    ImportFits runtime (ofElement runtime element arity) := by
  unfold ofElement
  simp only
  split
  · exact .of_none (.inl rfl) rfl
  · split
    · exact .of_qualified (by simp) (by simp) rfl
    · split
      · exact .of_qualified (by simp) (by simp) rfl
      · split
        · exact .of_qualified (by simp) (by simp) rfl
        · exact .of_none (.inr rfl) rfl

/-- Digits of ASCII have the value that they have everywhere. -/
theorem IsSize.value_eq {digits : Text} (h : IsSize digits) :
    Numeral.value digits = Nat.ofDigitChars 10 digits 0 := by
  refine List.foldl_ext _ _ _ fun n c hc => ?_
  rw [Text.decimalValue?_of_isDigit (h.digit c hc), Option.getD_some]

/-- **Array markers do not interfere with elements.** Every element is accepted, and behind it a
marker changes the arity only: an array without a fixed size for `[]` and for a limit, of the given
size for a size. Whatever the arity, the import path fits the kind and the name of the type. -/
theorem markers_orthogonal {digits : Text} (hne : element ≠ []) (hopen : '[' ∉ element)
    (hclose : ']' ∉ element) (hfirst : ∀ c, element.head? = some c → Text.isBlank c = false)
    (hlast : ∀ c, element.getLast? = some c → Text.isBlank c = false) (hsize : IsSize digits)
    (runtime : Text) :
    ∃ type : FieldType, ofToken runtime element = .ok type ∧ type.arity = .single ∧
      ofToken runtime (element ++ "[]") = .ok { type with arity := .array 0 } ∧
      ofToken runtime (element ++ ("[<=" ++ digits ++ "]")) =
        .ok { type with arity := .array 0 } ∧
      ofToken runtime (element ++ ("[" ++ digits ++ "]")) =
        .ok { type with arity := .array (Nat.ofDigitChars 10 digits 0) } ∧
      ∀ arity, ImportFits runtime { type with arity := arity } := by
  have hmarked : ∀ m : Marker, m.IsRead → ofToken runtime (element ++ m.text) =
      .ok { ofElement runtime element .single with arity := m.arity } := by
    intro m hm
    rw [← ofElement_eq]
    exact ofToken_marked hne (Text.trim_eq_self hfirst hlast) hopen hclose hm runtime
  have hsingle := ofElement_eq runtime element .single
  refine ⟨ofElement runtime element .single, ?_, congrArg arity hsingle, ?_, ?_, ?_,
    fun arity => ?_⟩
  · have htext : element ++ Marker.text .single = element := List.append_nil element
    have hok := hmarked .single trivial
    rw [htext] at hok
    exact hok.trans (congrArg Except.ok hsingle.symm)
  · exact hmarked .free trivial
  · exact hmarked (.bounded digits) hsize
  · rw [← hsize.value_eq]
    exact hmarked (.sized digits) hsize
  · rw [← ofElement_eq]
    exact ofElement_importFits runtime element arity

/-- A string of limited length, whose limit looks like that of a marker. -/
theorem markers_orthogonal_string :
    let string := fun arity => FieldType.mk .basic "StringMessage"
      (some "id.jrosmessages.std_msgs.StringMessage") arity
    ofToken defaultRuntime "string<=10" = .ok (string .single) ∧
      ofToken defaultRuntime "string<=10[]" = .ok (string (.array 0)) ∧
      ofToken defaultRuntime "string<=10[<=007]" = .ok (string (.array 0)) ∧
      ofToken defaultRuntime "string<=10[007]" = .ok (string (.array 7)) := by
  intro string
  have hok : ofToken defaultRuntime "string<=10" = .ok (string .single) := by decide +kernel
  have hne : ("string<=10" : Text) ≠ [] := by decide
  have hfirst : ∀ c, ("string<=10" : Text).head? = some c → Text.isBlank c = false := by
    intro c hc
    obtain rfl : 's' = c := Option.some.inj hc
    decide
  have hlast : ∀ c, ("string<=10" : Text).getLast? = some c → Text.isBlank c = false := by
    intro c hc
    obtain rfl : '0' = c := Option.some.inj hc
    decide
  have hdigit : ("007" : Text).all Char.isDigit = true := by decide
  have hsize : IsSize "007" := ⟨by decide, List.all_eq_true.1 hdigit, by decide⟩
  obtain ⟨type, htype, -, hfree, hlimit, hsized, -⟩ :=
    markers_orthogonal hne (by decide) (by decide) hfirst hlast hsize defaultRuntime
  obtain rfl : string .single = type := Except.ok.inj (hok.symm.trans htype)
  exact ⟨hok, hfree, hlimit, hsized⟩

end FieldType

end RosBindings

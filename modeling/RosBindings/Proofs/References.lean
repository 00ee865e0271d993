import RosBindings.Proofs.FieldTypes
import RosBindings.Proofs.OutputFolder

/-!
# References between classes

A field names the class of another message by its type token, and the class itself is named by
the identifier of its message. The two names are taken from the texts on different ways: a token
is cut at its slashes, an identifier is read as a path.

* `Dialect.identifier` is how a message is called in each dialect.
* `ofElement_foreign`, `ofElement_sibling`: what an element with a slash, and one without,
  refers to.
* `references_agree`: every spelling of a reference names the class that is generated.
-/

namespace RosBindings

/-- How a message of a package is called in a dialect. -/
def Dialect.identifier : Dialect → Text → Text → Text
  | .ros1, package, name => package ++ '/' :: name
  | .ros2, package, name => package ++ '/' :: ("msg" ++ '/' :: name)

/-- A name that a package or a message can have in a token: neither blanks, slashes of either kind
nor brackets are in it. -/
structure IsTokenName (name : Text) : Prop where
  ne_nil : name ≠ []
  blank : ∀ c ∈ name, Text.isBlank c = false
  slash : '/' ∉ name
  backslash : '\\' ∉ name
  opening : '[' ∉ name
  closing : ']' ∉ name

namespace FieldType

variable {element package name : Text}

/-! ## Elements -/

theorem lookup_of_slash {β : Type} {entries : List (Text × β)}
    (hkeys : entries.all (fun e => !e.1.contains '/') = true) (h : '/' ∈ element) :
    entries.lookup element = none := by
  rw [Option.eq_none_iff_forall_ne_some]
  intro value hvalue
  have hkey := List.all_eq_true.1 hkeys _ (Text.mem_of_lookup hvalue)
  simp [h] at hkey

/-- An element with slashes is a message of the package before the first of them. -/
theorem ofElement_foreign {first last : Text} {rest : List Text} (hslash : '/' ∈ element)
    (hbound : dropLengthBound element = element)
    (hpieces : Text.pieces (· == '/') element = first :: (rest ++ [last])) (runtime : Text)
    (arity : Arity) :
    ofElement runtime element arity = ⟨.foreign, Naming.className last,
      some (qualified [runtime, first, Naming.className last]), arity⟩ := by
  have hlast : (first :: (rest ++ [last])).getLast?.getD [] = last := by
    rw [← List.cons_append, List.getLast?_concat, Option.getD_some]
  have hprimitive : primitives.lookup element = none := lookup_of_slash (by decide) hslash
  have hbasic : basics.lookup element = none := lookup_of_slash (by decide) hslash
  unfold ofElement
  simp only [hbound, hprimitive, hbasic]
  rw [if_pos (by simpa using hslash), hpieces, hlast]
  rfl

/-- An element without slashes that is in no table is a message of the same package. -/
theorem ofElement_sibling (hslash : '/' ∉ element) (hbound : dropLengthBound element = element)
    (hprimitive : primitives.lookup element = none) (hbasic : basics.lookup element = none)
    (hstandard : standards.lookup element = none) (runtime : Text) (arity : Arity) :
    ofElement runtime element arity = ⟨.sibling, Naming.className element, none, arity⟩ := by
  unfold ofElement
  simp only [hbound, hprimitive, hbasic]
  rw [if_neg (by simpa using hslash), hstandard]

end FieldType

namespace IsTokenName

variable {package name : Text}

theorem isSegment (h : IsTokenName name) (hself : name ≠ ['.']) : Naming.IsSegment name :=
  ⟨h.ne_nil, hself, h.slash, h.backslash⟩

theorem word (h : IsTokenName name) : ∀ c ∈ name, (c == '/') = false :=
  Text.beq_eq_false_of_not_mem h.slash

/-- The pieces of an identifier start with the package and end with the name. -/
theorem pieces_identifier (hp : IsTokenName package) (hn : IsTokenName name) (dialect : Dialect) :
    ∃ middle, Text.pieces (· == '/') (dialect.identifier package name) =
      package :: (middle ++ [name]) := by
  have hname : Text.pieces (· == '/') name = [name] := Text.pieces_of_word hn.word
  cases dialect with
  | ros1 =>
    refine ⟨[], ?_⟩
    rw [Dialect.identifier, Text.pieces_append_sep hp.word rfl, hname]
    rfl
  | ros2 =>
    refine ⟨["msg"], ?_⟩
    rw [Dialect.identifier, Text.pieces_append_sep hp.word rfl,
      Text.pieces_append_sep (w := "msg") (by simp) rfl, hname]
    rfl

theorem mem_identifier {c : Char} {dialect : Dialect} (h : c ∈ dialect.identifier package name) :
    c ∈ package ∨ c = '/' ∨ c ∈ ("msg" : Text) ∨ c ∈ name := by
  cases dialect with
  | ros1 =>
    simp only [Dialect.identifier, List.mem_append, List.mem_cons] at h
    tauto
  | ros2 =>
    simp only [Dialect.identifier, List.mem_append, List.mem_cons] at h
    tauto

/-- An identifier is its last segment behind a slash. -/
theorem exists_identifier_eq (dialect : Dialect) (package name : Text) :
    ∃ before, dialect.identifier package name = before ++ '/' :: name := by
  cases dialect with
  | ros1 => exact ⟨package, rfl⟩
  | ros2 => exact ⟨package ++ '/' :: "msg", by simp [Dialect.identifier]⟩

theorem className_identifier (h : IsTokenName name) (hself : name ≠ ['.']) (dialect : Dialect)
    (package : Text) :
    Naming.className (dialect.identifier package name) = Naming.className name := by
  obtain ⟨before, hbefore⟩ := exists_identifier_eq dialect package name
  rw [hbefore, Naming.className_append_slash before (h.isSegment hself).segments_ne_nil]

end IsTokenName

namespace FieldType

variable {package name : Text}

/-- A token that spells a message of a package refers to its class in this package. -/
theorem ofToken_identifier (hp : IsTokenName package) (hn : IsTokenName name)
    (hbound : ¬ EndsInBound name) (dialect : Dialect) {m : Marker} (hm : m.IsRead)
    (runtime : Text) :
    ofToken runtime (dialect.identifier package name ++ m.text) =
      .ok ⟨.foreign, Naming.className name,
        some (qualified [runtime, package, Naming.className name]), m.arity⟩ := by
  obtain ⟨before, hbefore⟩ := IsTokenName.exists_identifier_eq dialect package name
  have hslash : '/' ∈ dialect.identifier package name := by
    rw [hbefore]
    exact List.mem_append_right _ List.mem_cons_self
  have hblank : ∀ c ∈ dialect.identifier package name, Text.isBlank c = false := by
    intro c hc
    have hall : ("/msg" : Text).all (!Text.isBlank ·) = true := by decide
    have hfixed : ∀ c ∈ ("/msg" : Text), Text.isBlank c = false := by
      intro c hc
      simpa using List.all_eq_true.1 hall c hc
    rcases IsTokenName.mem_identifier hc with hc | rfl | hc | hc
    · exact hp.blank c hc
    · exact hfixed _ (by simp)
    · exact hfixed c (List.mem_cons_of_mem _ hc)
    · exact hn.blank c hc
  have hbracket : ∀ c ∈ dialect.identifier package name, c ≠ '[' ∧ c ≠ ']' := by
    intro c hc
    have hall : ("/msg" : Text).all (fun c => c != '[' && c != ']') = true := by decide
    have hfixed : ∀ c ∈ ("/msg" : Text), c ≠ '[' ∧ c ≠ ']' := by
      intro c hc
      simpa using List.all_eq_true.1 hall c hc
    rcases IsTokenName.mem_identifier hc with hc | rfl | hc | hc
    · exact ⟨fun h => hp.opening (h ▸ hc), fun h => hp.closing (h ▸ hc)⟩
    · exact hfixed _ (by simp)
    · exact hfixed c (List.mem_cons_of_mem _ hc)
    · exact ⟨fun h => hn.opening (h ▸ hc), fun h => hn.closing (h ▸ hc)⟩
  -- a bound would have to reach across the slash before the name
  have hdrop : dropLengthBound (dialect.identifier package name) =
      dialect.identifier package name := by
    refine dropLengthBound_eq_self hblank fun hends => hbound ?_
    rw [hbefore] at hends
    exact hends.of_append_slash
  obtain ⟨middle, hpieces⟩ := hp.pieces_identifier hn dialect
  rw [ofToken_marked (List.ne_nil_of_mem hslash) (Text.trim_of_not_blank hblank)
    (fun h => (hbracket _ h).1 rfl) (fun h => (hbracket _ h).2 rfl) hm,
    ofElement_foreign hslash hdrop hpieces]

/-- A token that is the name of a message alone refers to its class in the same package. -/
theorem ofToken_name (hn : IsTokenName name) (hbound : ¬ EndsInBound name)
    (hprimitive : primitives.lookup name = none) (hbasic : basics.lookup name = none)
    (hstandard : standards.lookup name = none) {m : Marker} (hm : m.IsRead) (runtime : Text) :
    ofToken runtime (name ++ m.text) =
      .ok ⟨.sibling, Naming.className name, none, m.arity⟩ := by
  rw [ofToken_marked hn.ne_nil (Text.trim_of_not_blank hn.blank) hn.opening hn.closing hm,
    ofElement_sibling hn.slash (dropLengthBound_eq_self hn.blank hbound) hprimitive hbasic
      hstandard]

/-- **References and definitions agree on names.** Every message has one class name, whichever
dialect its identifier is spelled in, and its class goes to the file of this name. A token that
spells the message, in either dialect and with any array marker, is read as this class in the
package below the runtime; the name of the message alone, unless it is one of the words with a
meaning of their own, is read as this class in the same package. -/
theorem references_agree (hp : IsTokenName package) (hn : IsTokenName name) (hself : name ≠ ['.'])
    (hbound : ¬ EndsInBound name) (runtime : Text) :
    ∃ cls : Text,
      (∀ dialect : Dialect, Naming.className (dialect.identifier package name) = cls) ∧
      (∀ (g : Generator) (dialect : Dialect), g.outputPath (dialect.identifier package name) =
        g.config.outputFolder.entry (cls ++ ".java")) ∧
      (∀ (dialect : Dialect) (m : Marker), m.IsRead →
        ofToken runtime (dialect.identifier package name ++ m.text) =
          .ok ⟨.foreign, cls, some (runtime ++ '.' :: (package ++ '.' :: cls)), m.arity⟩) ∧
      (primitives.lookup name = none → basics.lookup name = none →
        standards.lookup name = none → ∀ m : Marker, m.IsRead →
          ofToken runtime (name ++ m.text) = .ok ⟨.sibling, cls, none, m.arity⟩) := by
  have hclass : ∀ dialect : Dialect,
      Naming.className (dialect.identifier package name) = Naming.className name :=
    fun dialect => hn.className_identifier hself dialect package
  refine ⟨Naming.className name, hclass, fun g dialect => ?_, fun dialect m hm => ?_, ?_⟩
  · rw [Generator.outputPath_eq, Generator.fileName, hclass]
  · rw [ofToken_identifier hp hn hbound dialect hm, qualified_three]
  · intro hprimitive hbasic hstandard m hm
    exact ofToken_name hn hbound hprimitive hbasic hstandard hm runtime

/-- A message whose file has the extension in its name, referred to from elsewhere. -/
theorem references_agree_extension :
    let cls : Text := "MyTypeMessage"
    Naming.className "test_msgs/msg/my_type.msg" = cls ∧
      ofToken "id.jrosmessages" "test_msgs/my_type.msg[<=12]" =
        .ok ⟨.foreign, cls, some "id.jrosmessages.test_msgs.MyTypeMessage", .array 0⟩ ∧
      ofToken "id.jrosmessages" "test_msgs/msg/my_type.msg[3]" =
        .ok ⟨.foreign, cls, some "id.jrosmessages.test_msgs.MyTypeMessage", .array 3⟩ ∧
      ofToken "id.jrosmessages" "my_type.msg" = .ok ⟨.sibling, cls, none, .single⟩ := by
  intro cls
  have hname : ∀ {t : Text}, t.all (fun c => !Text.isBlank c && c != '/' && c != '\\' && c != '[' &&
      c != ']') = true → t ≠ [] → IsTokenName t := by
    intro t hall hne
    simp only [List.all_eq_true, Bool.and_eq_true, Bool.not_eq_true', bne_iff_ne] at hall
    exact ⟨hne, fun c hc => (hall c hc).1.1.1.1, fun h => (hall _ h).1.1.1.2 rfl,
      fun h => (hall _ h).1.1.2 rfl, fun h => (hall _ h).1.2 rfl, fun h => (hall _ h).2 rfl⟩
  have hbound : ¬ EndsInBound "my_type.msg" := by
    intro hends
    obtain ⟨c, hlast, hdecimal⟩ := hends.exists_last
    obtain rfl : 'g' = c := Option.some.inj hlast
    exact absurd hdecimal (by decide)
  have hsize : ∀ {digits : Text}, digits.all Char.isDigit = true → digits ≠ [] →
      digits.length ≤ Numeral.maxDigits → IsSize digits := by
    intro digits hall hne hlength
    exact ⟨hne, List.all_eq_true.1 hall, hlength⟩
  have hpackage : IsTokenName "test_msgs" := hname (by decide) (by decide)
  have hmessage : IsTokenName "my_type.msg" := hname (by decide) (by decide)
  obtain ⟨found, hclass, -, hforeign, hsibling⟩ :=
    references_agree hpackage hmessage (by decide) hbound "id.jrosmessages"
  obtain rfl : found = cls := by
    rw [← hclass .ros2]
    decide +kernel
  refine ⟨hclass .ros2, ?_, ?_, ?_⟩
  · exact hforeign .ros1 (.bounded "12") (hsize (by decide) (by decide) (by decide))
  · exact hforeign .ros2 (.sized "3") (hsize (by decide) (by decide) (by decide))
  · exact hsibling (by decide) (by decide) (by decide) .single trivial

end FieldType

end RosBindings

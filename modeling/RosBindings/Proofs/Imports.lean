import RosBindings.Proofs.Sections

/-!
# The imports of a class

The imports of a class are collected over its fields, each field with needs of its own, and
several fields may need the same. What is listed is exact, and so is what is written.

* `Needs` (with the text of a class) is what a class has to import, and `mem_imports_iff` says
  that it is what is listed.
* `rows_classText`: values without line feeds are put into the rows of a class one by one.
* `opensElsewhere` is a row that is no import, whatever is put into it; all rows but those of the
  imports are of this kind.
* `imports_exact`: the list, the section and the rows of the class.
-/

namespace RosBindings

namespace Placeholder

variable {b : Bindings} {t : Text} {c : Char}

/-- What is put in comes from the text or from a value. -/
theorem not_mem_substitute (hb : ∀ name value, b.lookup name = some value → c ∉ value)
    (ht : c ∉ t) : c ∉ substitute b t := by
  induction t using scan_induction with
  | nil => exact ht
  | key name u hk ih =>
    rw [List.mem_append, not_or] at ht
    rw [substitute_written_append hk, List.mem_append, not_or]
    refine ⟨?_, ih ht.2⟩
    cases hvalue : b.lookup name with
    | none => exact ht.1
    | some value => exact hb name value hvalue
  | char x u hnone ih =>
    rw [List.mem_cons, not_or] at ht
    rw [substitute_cons_of_none hnone, List.mem_cons, not_or]
    exact ⟨ht.1, ih ht.2⟩

/-- Values without line feeds leave the rows apart. -/
theorem rows_substitute (hb : ∀ name value, b.lookup name = some value → '\n' ∉ value)
    (t : Text) : Text.rows (substitute b t) = (Text.rows t).map (substitute b) := by
  conv_lhs => rw [← Text.unrows_rows t, substitute_unrows]
  refine Text.rows_unrows (fun r hr => ?_) (by simp)
  obtain ⟨row, hrow, rfl⟩ := List.mem_map.1 hr
  exact not_mem_substitute hb (Text.not_mem_of_mem_rows hrow)

end Placeholder

namespace JavaClass

open CodeWriter (shown)
open Placeholder (substitute)

variable {style : Style} {d : Definition} {checksum : Option Text}

/-! ## The rows of a class -/

/-- What stands at the margin of a class has no line feeds. -/
structure OneRow (style : Style) (d : Definition) (checksum : Option Text) : Prop where
  javaPackage : '\n' ∉ style.javaPackage
  name : '\n' ∉ d.name
  checksum : ∀ sum, checksum = some sum → '\n' ∉ sum
  imports : ∀ path ∈ imports style.runtime d, '\n' ∉ path
  fields : ∀ f ∈ d.fields, '\n' ∉ f.name

theorem OneRow.values (h : OneRow style d checksum) :
    ∀ name value, (classValues d checksum).lookup name = some value → '\n' ∉ value := by
  intro name value hvalue
  rcases of_lookup_classValues hvalue with ⟨-, rfl⟩ | ⟨-, hsum⟩ | ⟨-, rfl⟩
  · exact Naming.feed_not_mem_className d.name
  · exact h.checksum value (Option.filter_eq_some_iff.1 hsum).1
  · exact h.name

/-- **The rows of a class**: values are put into each of them. -/
theorem rows_classText (h : OneRow style d checksum) :
    Text.rows (classText style d checksum) =
      (shownRows (classPieces style d checksum)).map (substitute (classValues d checksum))
        ++ [[]] := by
  have hne : (classPieces style d checksum).map (fun p =>
      substitute (classValues d checksum) (shown p)) ≠ [] := by
    simp [classPieces]
  rw [classText, Text.rows_append_newline, Text.rows_unrows_flatMap hne, List.flatMap_map,
    shownRows, List.map_flatMap]
  simp only [Placeholder.rows_substitute h.values]
  rfl

/-! ## Rows that are no imports -/

/-- Whether a row is an import. -/
def isImport (row : Text) : Bool := ("import " : Text).isPrefixOf row

/-- Whether a row opens in a way that no import does, whatever is put into it. -/
def opensElsewhere (row : Text) : Bool := row.head?.all fun c => c != '$' && c != 'i'

theorem not_isImport_substitute {row : Text} (h : opensElsewhere row = true) (v : Bindings) :
    isImport (substitute v row) = false := by
  cases row with
  | nil => rfl
  | cons c row =>
    have hc : c ≠ '$' ∧ c ≠ 'i' := by simpa [opensElsewhere] using h
    have hfirst : isImport (c :: substitute v row) =
        ('i' == c && ("mport " : Text).isPrefixOf (substitute v row)) := rfl
    rw [Placeholder.substitute_cons_of_ne hc.1, hfirst, beq_eq_false_iff_ne.2 hc.2.symm]
    rfl

/-- No row of the pieces is an import. -/
def Elsewhere (ps : List Piece) : Prop := ∀ row ∈ shownRows ps, opensElsewhere row = true

theorem elsewhere_append {ps qs : List Piece} :
    Elsewhere (ps ++ qs) ↔ Elsewhere ps ∧ Elsewhere qs := by
  rw [Elsewhere, shownRows_append, List.forall_mem_append]
  rfl

/-- Rows at the margin. -/
theorem elsewhere_margin {rs : List Text} (hfeed : ∀ r ∈ rs, '\n' ∉ r)
    (h : ∀ r ∈ rs, opensElsewhere r = true) : Elsewhere (Filled.atDepth 0 rs) := by
  intro row hrow
  rw [shownRows_atDepth hfeed] at hrow
  obtain ⟨r, hr, rfl⟩ := List.mem_map.1 hrow
  rw [CodeWriter.indent_zero]
  exact h r hr

/-- Rows that do not stand at the margin open with a blank, whatever they say. -/
theorem elsewhere_deep {ps : List Piece} (h : ∀ p ∈ ps, 0 < p.1) : Elsewhere ps := by
  intro row hrow
  obtain ⟨⟨n, t⟩, hp, hrow⟩ := List.mem_flatMap.1 hrow
  obtain ⟨n, rfl⟩ := Nat.exists_eq_succ_of_ne_zero (h _ hp).ne'
  rw [rows_shown] at hrow
  obtain ⟨r, -, rfl⟩ := List.mem_map.1 hrow
  cases r <;> rfl

/-- The body of a class does not stand at the margin. -/
theorem depth_bodyPieces (v : Bindings) (d : Definition) : ∀ p ∈ bodyPieces v d, 0 < p.1 := by
  have hdeclaration : ∀ n fragment f, ∀ p ∈ declarationPieces v (n + 1) fragment f, 0 < p.1 := by
    intro n fragment f p hp
    rw [declarationPieces, List.mem_append, List.mem_singleton] at hp
    rcases hp with hp | rfl
    · split at hp
      · cases hp
      · obtain ⟨r, -, rfl⟩ := List.mem_map.1 hp
        exact n.succ_pos
    · exact n.succ_pos
  have henum : ∀ enum, ∀ p ∈ enumPieces v enum, 0 < p.1 := by
    intro enum
    simp only [enumPieces, List.forall_mem_append, List.forall_mem_flatMap]
    exact ⟨⟨by simp, fun f _ => hdeclaration 1 _ f⟩, by simp⟩
  have hidentity : ∀ items f separator, ∀ p ∈ identityPieces items f separator, 0 < p.1 := by
    intro items f separator p hp
    rw [identityPieces] at hp
    split at hp
    · cases hp
    · rcases List.mem_cons.1 hp with rfl | hp
      · exact Nat.one_pos
      · obtain ⟨r, -, rfl⟩ := List.mem_map.1 hp
        exact Nat.one_pos
  simp only [bodyPieces, fieldPieces, List.forall_mem_append, List.forall_mem_flatMap]
  refine ⟨⟨⟨⟨⟨⟨fun enum _ => henum enum, ?_⟩, fun f _ => hdeclaration 0 _ f⟩, ?_⟩,
    hidentity _ _ _⟩, hidentity _ _ _⟩, hidentity _ _ _⟩
  · split <;> simp
  · simp [accessorPieces]

theorem elsewhere_header : Elsewhere (fragmentPieces 0 .header) := by
  have hopens : (Fragment.rows .header).all opensElsewhere = true := by decide +kernel
  exact elsewhere_margin (fun r hr => not_mem_of_mem_rows hr) (List.all_eq_true.1 hopens)

theorem elsewhere_package {javaPackage : Text} (h : '\n' ∉ javaPackage) :
    Elsewhere (packagePieces javaPackage) := by
  have hrows : packagePieces javaPackage =
      Filled.atDepth 0 ["package " ++ javaPackage ++ ";", []] := rfl
  rw [hrows]
  refine elsewhere_margin (by simp [h]) ?_
  exact List.forall_mem_cons.2 ⟨rfl, List.forall_mem_singleton.2 rfl⟩

theorem elsewhere_comment (t : Text) : Elsewhere (docPieces 0 t) := by
  refine elsewhere_margin (fun r hr => feed_not_mem_docRows hr) fun r hr => ?_
  obtain ⟨c, rest, rfl, rfl | rfl⟩ := exists_of_mem_docRows hr <;> rfl

theorem elsewhere_metadata (h : ∀ f ∈ d.fields, '\n' ∉ f.name) (showsChecksum : Bool) :
    Elsewhere (expandedPieces 0 .metadata (metadataItems d showsChecksum) ",") := by
  have hnames : '\n' ∉ Text.join ", " (d.fields.map fun f => literal f.name) := by
    intro hfeed
    rcases Text.mem_join hfeed with hsep | ⟨t, ht, hin⟩
    · exact absurd hsep (by decide)
    · obtain ⟨f, hf, rfl⟩ := List.mem_map.1 ht
      simp [literal, h f hf] at hin
  have hitems : ∀ item ∈ metadataItems d showsChecksum, '\n' ∉ item := by
    unfold metadataItems
    generalize Text.join ", " _ = names at hnames ⊢
    simp only [List.forall_mem_append, List.forall_mem_cons]
    refine ⟨⟨by decide, ?_⟩, ?_⟩
    · split <;> simp [hnames]
    · split
      · decide +kernel
      · simp
  have hcopies : ∀ r ∈ itemRows "        " "," ")" (metadataItems d showsChecksum), '\n' ∉ r :=
    feed_not_mem_itemRows (by decide) (by decide) (by decide) hitems
  rw [expandedPieces_eq 0 _ "," ["@MessageMetadata("] [] "        " ")" rfl (by decide) (by decide)
    (by decide) (by decide), List.append_nil, copies_eq_itemRows, List.singleton_append]
  refine elsewhere_margin (List.forall_mem_cons.2 ⟨by decide, hcopies⟩)
    (List.forall_mem_cons.2 ⟨by decide, fun r hr => ?_⟩)
  rw [itemRows, List.mem_append, List.mem_map, List.mem_map] at hr
  rcases hr with ⟨item, -, rfl⟩ | ⟨item, -, rfl⟩ <;> rfl

/-- **Nothing but the imports looks like one.** -/
theorem exists_around_imports (h : OneRow style d checksum) :
    ∃ above below, classPieces style d checksum = above ++ importPieces style.runtime d ++ below ∧
      Elsewhere above ∧ Elsewhere below := by
  have habove : Elsewhere (fragmentPieces 0 .header ++ packagePieces style.javaPackage) :=
    elsewhere_append.2 ⟨elsewhere_header, elsewhere_package h.javaPackage⟩
  have hopening : Elsewhere (Filled.atDepth 0 [classHead]) :=
    elsewhere_margin (by decide +kernel) (by decide +kernel)
  have hbody : Elsewhere ((1, []) :: (fragmentPieces 1 .fieldsHeader
      ++ bodyPieces (classValues d checksum) d)) := by
    refine elsewhere_deep (List.forall_mem_cons.2 ⟨Nat.one_pos, List.forall_mem_append.2 ⟨?_, ?_⟩⟩)
    · intro p hp
      obtain ⟨r, -, rfl⟩ := List.mem_map.1 hp
      exact Nat.one_pos
    · exact depth_bodyPieces _ d
  have hclosing : Elsewhere (Filled.atDepth 0 [closingRow]) :=
    elsewhere_margin (by decide) (by decide)
  refine ⟨_, docPieces 0 (classComment d)
      ++ expandedPieces 0 .metadata (metadataItems d (showsSum style checksum)) ","
      ++ Filled.atDepth 0 [classHead]
      ++ (1, []) :: (fragmentPieces 1 .fieldsHeader ++ bodyPieces (classValues d checksum) d)
      ++ Filled.atDepth 0 [closingRow], ?_, habove, ?_⟩
  · simp only [classPieces, Filled.atDepth, List.map_cons, List.map_nil, List.append_assoc,
      List.cons_append, List.nil_append]
  · simp only [elsewhere_append]
    exact ⟨⟨⟨⟨elsewhere_comment _, elsewhere_metadata h.fields _⟩, hopening⟩, hbody⟩, hclosing⟩

/-! ## Rows that are imports -/

theorem substitute_importRow (v : Bindings) (path : Text) :
    substitute v (Template.importRow path) = Template.importRow (substitute v path) := by
  unfold Template.importRow
  rw [List.append_assoc, Placeholder.substitute_plain_append (by decide),
    Placeholder.substitute_append (by decide), Placeholder.substitute_plain (t := ";") (by decide),
    List.append_assoc]

theorem shownRows_importPieces {runtime : Text} (h : ∀ path ∈ imports runtime d, '\n' ∉ path) :
    shownRows (importPieces runtime d) = (imports runtime d).map Template.importRow ++ [[]] := by
  have hrows : importPieces runtime d =
      Filled.atDepth 0 ((imports runtime d).map Template.importRow ++ [[]]) := by
    rw [importPieces, Filled.atDepth, List.map_append, List.map_map]
    rfl
  have hfeed : ∀ r ∈ (imports runtime d).map Template.importRow ++ [[]], '\n' ∉ r := by
    intro r hr
    rw [List.mem_append, List.mem_map, List.mem_singleton] at hr
    rcases hr with ⟨path, hpath, rfl⟩ | rfl
    · unfold Template.importRow
      simp [h path hpath]
    · exact List.not_mem_nil
  rw [hrows, shownRows_atDepth hfeed, funext (CodeWriter.indent_zero _), List.map_id']

/-- **The rows of a class that are imports** are those of its import section. -/
theorem filter_isImport_classText (h : OneRow style d checksum) :
    (Text.rows (classText style d checksum)).filter isImport =
      (imports style.runtime d).map fun path =>
        Template.importRow (substitute (classValues d checksum) path) := by
  have hdrop : ∀ ps, Elsewhere ps →
      ((shownRows ps).map (substitute (classValues d checksum))).filter isImport = [] := by
    intro ps hps
    rw [List.filter_eq_nil_iff]
    intro row hrow
    obtain ⟨r, hr, rfl⟩ := List.mem_map.1 hrow
    rw [not_isImport_substitute (hps r hr)]
    exact Bool.false_ne_true
  have hkeep : ((shownRows (importPieces style.runtime d)).map
      (substitute (classValues d checksum))).filter isImport = (imports style.runtime d).map
        fun path => Template.importRow (substitute (classValues d checksum) path) := by
    rw [shownRows_importPieces h.imports, List.map_append, List.map_map, List.filter_append]
    have hall : ∀ row ∈ (imports style.runtime d).map
        (substitute (classValues d checksum) ∘ Template.importRow), isImport row = true := by
      intro row hrow
      obtain ⟨path, -, rfl⟩ := List.mem_map.1 hrow
      rw [Function.comp_apply, substitute_importRow]
      rfl
    rw [List.filter_eq_self.2 hall]
    simp only [Function.comp_def, substitute_importRow]
    exact List.append_nil _
  obtain ⟨above, below, hpieces, habove, hbelow⟩ := exists_around_imports h
  rw [rows_classText h, hpieces, shownRows_append, shownRows_append, List.map_append,
    List.map_append, List.filter_append, List.filter_append, List.filter_append, hdrop _ habove,
    hdrop _ hbelow, hkeep]
  simp [isImport]

/-- **The import section is exact.** The paths are strictly increasing, and they are those that the
class needs: the message types of the runtime, the types of the fields that have a path, and what
the methods use for fields and for arrays. Enumerations need nothing. The section is one row for
each path, in this order. In the text of a class, whose values and names at the margin stand in one
row each, the rows that are imports are these and no others; a placeholder in a path gets the value
of the class, and a path without dollar signs stands as it is. -/
theorem imports_exact (runtime : Text) (d : Definition) :
    (imports runtime d).Pairwise (· < ·) ∧
    (∀ path, path ∈ imports runtime d ↔ Needs runtime d path) ∧
    (∀ enums, imports runtime { d with enums } = imports runtime d) ∧
    ∀ style : Style, style.IsPackaged → style.runtime = runtime →
      style.fragment .imports [("imports", .list (imports runtime d))] =
        .ok (Text.unrows ((imports runtime d).map Template.importRow)) ∧
      ∀ checksum, ∃ text, render style d checksum = .ok text ∧
        (OneRow style d checksum →
          (Text.rows text).filter isImport = (imports runtime d).map (fun path =>
            Template.importRow (substitute (classValues d checksum) path)) ∧
          ((∀ path ∈ imports runtime d, '$' ∉ path) →
            (Text.rows text).filter isImport = (imports runtime d).map Template.importRow)) := by
  refine ⟨Text.pairwise_sortedSet _, fun path => mem_imports_iff, fun enums => rfl, ?_⟩
  rintro style hp rfl
  refine ⟨hp.importRows _, fun checksum => ⟨_, render_packaged hp d checksum, fun h => ?_⟩⟩
  have hfilter := filter_isImport_classText h
  refine ⟨hfilter, fun hplain => hfilter.trans (List.map_congr_left fun path hpath => ?_)⟩
  rw [Placeholder.substitute_plain (hplain path hpath)]

/-- Fields that need the same as others, as the methods or as every class, one that needs nothing,
and an enumeration with a type of its own. -/
theorem imports_exact_overlapping :
    let field (name : Text) (path : Option Text) (arity : Arity) : Declaration :=
      { name, typeToken := "T", type := ⟨.sibling, "T", path, arity⟩, value := [], comment := [] }
    let d : Definition :=
      { name := "p/Shape"
        fields := [field "a" (some "org.geo.T") .single, field "b" (some "org.geo.T") (.array 3),
          field "c" (some "org.ros.Message") .single, field "e" (some "java.util.Arrays") .single,
          field "f" (some "") .single, field "g" none .single]
        enums := [[field "import" (some "org.enums.T") .single]] }
    let style := Style.packaged "org.example" "org.ros" .ros1 ⟨[], []⟩
    ∃ text, render style d none = .ok text ∧
      (Text.rows text).filter isImport =
        ["import id.xfunction.XJson;", "import java.util.Arrays;", "import java.util.Objects;",
          "import org.geo.T;", "import org.ros.Message;", "import org.ros.MessageMetadata;"] := by
  intro field d style
  have himports : imports "org.ros" d = ["id.xfunction.XJson", "java.util.Arrays",
      "java.util.Objects", "org.geo.T", "org.ros.Message", "org.ros.MessageMetadata"] := by
    decide +kernel
  have hrow : OneRow style d none := by
    refine ⟨by decide, by decide, by simp, ?_, by decide⟩
    change ∀ path ∈ imports "org.ros" d, '\n' ∉ path
    rw [himports]
    decide
  obtain ⟨text, hrender, hrows⟩ :=
    ((imports_exact "org.ros" d).2.2.2 style ⟨⟨[], []⟩, rfl⟩ rfl).2 none
  refine ⟨text, hrender, ((hrows hrow).2 ?_).trans ?_⟩
  · rw [himports]
    decide
  · rw [himports]
    decide +kernel

end JavaClass

end RosBindings

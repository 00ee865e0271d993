import RosBindings.Proofs.ClassText
import RosBindings.Proofs.FieldTypes
import RosBindings.Proofs.Grouping

/-!
# Resolution of type names

A class declares its fields with simple type names, and imports the types of other packages by
their paths. A name leads to the type that is meant only if no other import brings in the same
name, and nothing sees to that: the paths are collected field by field.

* `simpleName` is the name that an import brings in.
* `Resolves` says that the type of a field is found by its name.
* `Clash` lists what can be in the way of it.
* `resolves_iff_not_clash`: nothing else is.
-/

namespace RosBindings

open Naming (className classSuffix)
open FieldType (qualified fixedNames)

namespace JavaClass

variable {runtime library javaPackage path : Text} {d : Definition} {f : Declaration}

/-! ## Simple names -/

/-- The name that an import brings in: the last of the names that dots part. -/
def simpleName (path : Text) : Text := (Text.pieces (· == '.') path).getLast?.getD []

theorem simpleName_append_dot (before last : Text) :
    simpleName (before ++ '.' :: last) = simpleName last := by
  rw [simpleName, simpleName, Text.pieces_append_cons rfl,
    List.getLast?_append_of_ne_nil _ (Text.pieces_ne_nil _ last)]

theorem simpleName_of_not_mem (h : '.' ∉ path) : simpleName path = path := by
  rw [simpleName, Text.pieces_of_word (Text.beq_eq_false_of_not_mem h)]
  rfl

theorem dot_not_mem_simpleName (path : Text) : '.' ∉ simpleName path := by
  intro hdot
  have hne := Text.pieces_ne_nil (· == '.') path
  rw [simpleName, List.getLast?_eq_some_getLast hne, Option.getD_some] at hdot
  have hsep := (Text.mem_of_mem_pieces (List.getLast_mem hne) hdot).2
  revert hsep
  decide

theorem simpleName_qualified (runtime package name : Text) :
    simpleName (qualified [runtime, package, name]) = simpleName name := by
  rw [FieldType.qualified_three, simpleName_append_dot, simpleName_append_dot]

/-- What follows the last dot stays at the end of the simple name. -/
theorem suffix_simpleName {word : Text} (hw : '.' ∉ word) (before : Text) :
    word <:+ simpleName (before ++ word) := by
  obtain ⟨init, v, hpieces⟩ :=
    Text.pieces_append_word (Text.beq_eq_false_of_not_mem hw) before
  rw [simpleName, hpieces, List.getLast?_concat, Option.getD_some]
  exact List.suffix_append v word

/-! ## Names of classes -/

/-- Whether a name is one that the type of a field can have in an import. -/
def IsClassLike (name : Text) : Prop := name ∈ fixedNames ∨ classSuffix <:+ name

theorem isClassLike_simpleName {name : Text}
    (h : name ∈ fixedNames ∨ ∃ segment, name = className segment) :
    IsClassLike name ∧ IsClassLike (simpleName name) := by
  rcases h with hfixed | ⟨segment, rfl⟩
  · have hdot : '.' ∉ name := Text.not_mem_of_all (by decide) hfixed
    rw [simpleName_of_not_mem hdot]
    exact ⟨.inl hfixed, .inl hfixed⟩
  · exact ⟨.inr (List.suffix_append _ _), .inr (suffix_simpleName (by decide) _)⟩

/-- Other words are no such names. -/
theorem not_isClassLike {words : List Text} {name : Text}
    (hall : words.all (fun w => !fixedNames.contains w && !classSuffix.isSuffixOf w) = true)
    (h : name ∈ words) : ¬ IsClassLike name := by
  have hname := List.all_eq_true.1 hall name h
  rw [Bool.and_eq_true, Bool.not_eq_true', Bool.not_eq_true'] at hname
  rintro (hfixed | hsuffix)
  · rw [List.contains_iff_mem.2 hfixed] at hname
    exact Bool.noConfusion hname.1
  · rw [List.isSuffixOf_iff_suffix.2 hsuffix] at hname
    exact Bool.noConfusion hname.2

/-! ## Clashes -/

/-- **The type of a field is found by its name.** An imported type is the only import of that
name, and it is not shadowed by the class itself. A type of the same package is not shadowed by
an import. -/
structure Resolves (javaPackage runtime : Text) (d : Definition) (f : Declaration) : Prop where
  imported : ∀ path, f.type.importPath = some path →
    ∀ q, (q ∈ imports runtime d ∧ simpleName q = f.type.name) ↔ q = path
  own : ∀ path, f.type.importPath = some path → f.type.name = className d.name →
    path = javaPackage ++ '.' :: className d.name
  sibling : f.type.kind = .sibling → ∀ q ∈ imports runtime d, simpleName q ≠ f.type.name

/-- What can be in the way of the name of a type. -/
inductive Clash (javaPackage runtime : Text) (d : Definition) (f : Declaration) : Prop
  /-- An import brings in what stands behind the last dot of the name only. -/
  | dotted (path : Text) (imported : f.type.importPath = some path) (dot : '.' ∈ f.type.name)
  /-- The name is that of the interface of all messages, which is not meant. -/
  | interface (name : f.type.name = "Message")
    (different : f.type.importPath ≠ some (runtime ++ ".Message"))
  /-- Another field brings in another type of the same name. -/
  | field (other : Declaration) (path : Text) (mem : other ∈ d.fields)
    (imported : other.type.importPath = some path)
    (same : simpleName other.type.name = f.type.name)
    (different : f.type.importPath ≠ some path)
  /-- The class that is generated has the name of the type, which is another class. -/
  | own (path : Text) (imported : f.type.importPath = some path)
    (name : f.type.name = className d.name)
    (different : path ≠ javaPackage ++ '.' :: className d.name)

/-! ## Imports of fields -/

theorem interface_mem_imports (runtime : Text) (d : Definition) :
    runtime ++ ".Message" ∈ imports runtime d := by
  refine Text.mem_sortedSet_iff.2 (List.mem_append_left _ (List.mem_append_left _ ?_))
  exact List.mem_cons_self

theorem simpleName_interface (runtime : Text) : simpleName (runtime ++ ".Message") = "Message" := by
  have hdot : (runtime ++ ".Message" : Text) = runtime ++ '.' :: ("Message" : Text) := rfl
  rw [hdot, simpleName_append_dot]
  exact simpleName_of_not_mem (by decide)

/-- What the methods need has none of these names. -/
theorem not_isClassLike_needed (runtime : Text) {q : Text}
    (h : q = runtime ++ ".MessageMetadata" ∨ q ∈ fixedImports) : ¬ IsClassLike (simpleName q) := by
  have hwords : ∀ {name : Text},
      name ∈ (["MessageMetadata", "Arrays", "Objects", "XJson"] : List Text) →
      ¬ IsClassLike name := not_isClassLike (by decide)
  have hnames : fixedImports.map simpleName = ["Arrays", "Objects", "XJson"] := by decide +kernel
  rcases h with rfl | hq
  · have hdot : (runtime ++ ".MessageMetadata" : Text) =
        runtime ++ '.' :: ("MessageMetadata" : Text) := rfl
    rw [hdot, simpleName_append_dot, simpleName_of_not_mem (by decide)]
    exact hwords List.mem_cons_self
  · have hmem := List.mem_map_of_mem (f := simpleName) hq
    rw [hnames] at hmem
    exact hwords (List.mem_cons_of_mem _ hmem)

/-- Where a field of a definition that was read gets its type from. -/
theorem origin_of_parse {lines : List Text} {name : Text}
    (h : Definition.parse lines name runtime = .ok d) (hf : f ∈ d.fields) :
    FieldType.Origin runtime f.typeToken f.type := by
  obtain ⟨line, c, hreads, rfl⟩ := Definition.declared_reads h (List.mem_append_left _ hf)
  exact FieldType.ofToken_origin hreads.type

/-- An imported type is imported from a package below the runtime. -/
theorem exists_package (h : FieldType.Origin runtime f.typeToken f.type)
    (himport : f.type.importPath = some path) :
    (∃ package, path = qualified [runtime, package, f.type.name]) ∧
      (f.type.name ∈ fixedNames ∨ ∃ segment, f.type.name = className segment) := by
  cases h with
  | primitive hkind hnone hname => rw [hnone] at himport; cases himport
  | sibling hkind hnone hname => rw [hnone] at himport; cases himport
  | imported package hkind hpath hknown hname =>
    rw [hpath] at himport
    cases himport
    exact ⟨⟨package, rfl⟩, hname⟩

/-- **An import in the way of a name is a clash.** -/
theorem clash_of_import (horigin : ∀ g ∈ d.fields, FieldType.Origin runtime g.typeToken g.type)
    (hname : IsClassLike f.type.name) {q : Text} (hq : q ∈ imports library d)
    (hsame : simpleName q = f.type.name) (hother : f.type.importPath ≠ some q) :
    Clash javaPackage library d f := by
  rcases mem_imports hq with (rfl | hmetadata) | hfixed | ⟨other, hmem, himport⟩
  · rw [simpleName_interface] at hsame
    exact .interface hsame.symm hother
  · exact absurd (hsame ▸ hname) (not_isClassLike_needed library (.inl hmetadata))
  · exact absurd (hsame ▸ hname) (not_isClassLike_needed library (.inr hfixed))
  · obtain ⟨⟨package, hpath⟩, -⟩ := exists_package (horigin other hmem) himport
    rw [hpath, simpleName_qualified] at hsame
    exact .field other q hmem himport hsame hother

/-- A type with a name like that of a class is imported, or it is of the same package. -/
theorem kind_of_isClassLike (h : FieldType.Origin runtime f.typeToken f.type)
    (hname : IsClassLike f.type.name) :
    (∃ path, f.type.importPath = some path) ∨
      f.type.kind = .sibling ∧ f.type.importPath = none := by
  cases h with
  | primitive hkind hnone hprimitive =>
    exact absurd hname (not_isClassLike (by decide) hprimitive)
  | imported package hkind hpath => exact .inl ⟨_, hpath⟩
  | sibling hkind hnone => exact .inr ⟨hkind, hnone⟩

/-- Where the type is found, the only import of its name is its own. -/
theorem Resolves.importPath_eq (hres : Resolves javaPackage library d f)
    (h : FieldType.Origin runtime f.typeToken f.type) (hname : IsClassLike f.type.name)
    {q : Text} (hq : q ∈ imports library d) (hsame : simpleName q = f.type.name) :
    f.type.importPath = some q := by
  rcases kind_of_isClassLike h hname with ⟨path, himport⟩ | ⟨hkind, -⟩
  · rw [himport, (hres.imported path himport q).1 ⟨hq, hsame⟩]
  · exact absurd hsame (hres.sibling hkind q hq)

/-- The interface of all messages is the type of no field that was read with its runtime. -/
theorem importPath_ne_interface (h : FieldType.Origin runtime f.typeToken f.type)
    (hname : f.type.name = "Message") : f.type.importPath ≠ some (runtime ++ ".Message") := by
  intro himport
  obtain ⟨⟨package, hpath⟩, -⟩ := exists_package h himport
  -- a package between the two makes the path longer
  have hlength := congrArg List.length hpath
  have hdot : (".Message" : Text).length = ("Message" : Text).length + 1 := by decide
  rw [FieldType.qualified_three, hname] at hlength
  simp only [List.length_append, List.length_cons] at hlength
  omega

/-- The type of a field is imported under its path. -/
theorem import_mem_imports (h : FieldType.Origin runtime f.typeToken f.type) (hf : f ∈ d.fields)
    (himport : f.type.importPath = some path) : path ∈ imports library d := by
  obtain ⟨⟨package, hpath⟩, -⟩ := exists_package h himport
  have hne : path ≠ [] := by
    rw [hpath, FieldType.qualified_three]
    simp
  refine Text.mem_sortedSet_iff.2 (List.mem_append_left _ (List.mem_append_right _ ?_))
  refine List.mem_flatMap.2 ⟨f, hf, List.mem_append_right _ ?_⟩
  rw [Option.mem_toList, importPath?, Option.filter_eq_some_iff]
  exact ⟨himport, by simpa using hne⟩

/-- **Exactly clashes keep types from being found.** In a class for a definition that was read,
the type of a field is found by its name unless the name is dotted and imported, the name is
that of the interface though another type is meant, another field imports another type of that
name, or the name is that of the class itself though another class is meant. Nothing that the
methods need is in the way. A class need not have the runtime that its definition was read with;
where it has, the interface is never meant. -/
theorem resolves_iff_not_clash {lines : List Text} {name : Text} (javaPackage library : Text)
    (h : Definition.parse lines name runtime = .ok d) (hf : f ∈ d.fields) :
    (Resolves javaPackage library d f ↔ ¬ Clash javaPackage library d f) ∧
      (library = runtime → f.type.name = "Message" → Clash javaPackage library d f) := by
  have horigin : ∀ g ∈ d.fields, FieldType.Origin runtime g.typeToken g.type :=
    fun g hg => origin_of_parse h hg
  refine ⟨⟨?_, ?_⟩, ?_⟩
  · rintro hres (⟨path, himport, hdot⟩ | ⟨hname, hother⟩ |
      ⟨other, path, hmem, himport, hsame, hother⟩ | ⟨path, himport, hname, hother⟩)
    · have hself := ((hres.imported path himport path).2 rfl).2
      rw [← hself] at hdot
      exact dot_not_mem_simpleName path hdot
    · have hlike : IsClassLike f.type.name := .inr (hname ▸ List.suffix_refl _)
      have hinterface : simpleName (library ++ ".Message") = f.type.name := by
        rw [simpleName_interface, hname]
      exact hother
        (hres.importPath_eq (horigin f hf) hlike (interface_mem_imports library d) hinterface)
    · obtain ⟨⟨package, hpath⟩, hclass⟩ := exists_package (horigin other hmem) himport
      -- the name is one of a class, since it ends the name of a class
      have hlike : IsClassLike f.type.name := hsame ▸ (isClassLike_simpleName hclass).2
      have hname : simpleName path = f.type.name := by
        rw [hpath, simpleName_qualified, hsame]
      have hq : path ∈ imports library d := import_mem_imports (horigin other hmem) hmem himport
      exact hother (hres.importPath_eq (horigin f hf) hlike hq hname)
    · exact hother (hres.own path himport hname)
  · intro hclash
    refine ⟨fun path himport q => ?_, fun path himport hname => ?_, fun hkind q hq hsame => ?_⟩
    · obtain ⟨⟨package, hpath⟩, hclass⟩ := exists_package (horigin f hf) himport
      constructor
      · rintro ⟨hq, hsame⟩
        by_contra hne
        have hother : f.type.importPath ≠ some q := by
          rw [himport]
          exact fun heq => hne (Option.some.inj heq).symm
        exact hclash (clash_of_import horigin (isClassLike_simpleName hclass).1 hq hsame hother)
      · rintro rfl
        -- a class may be named after a text with dots, and then its import is cut short
        have hdot : '.' ∉ f.type.name := fun hdot => hclash (.dotted q himport hdot)
        refine ⟨import_mem_imports (horigin f hf) hf himport, ?_⟩
        rw [hpath, simpleName_qualified, simpleName_of_not_mem hdot]
    · by_contra hne
      exact hclash (.own path himport hname hne)
    · cases horigin f hf with
      | primitive hprimitive => rw [hkind] at hprimitive; cases hprimitive
      | imported package himported => exact himported hkind
      | sibling _ hnone hclass =>
        have hother : f.type.importPath ≠ some q := by
          rw [hnone]
          exact (Option.some_ne_none q).symm
        have hlike := (isClassLike_simpleName (.inr hclass)).1
        exact hclash (clash_of_import horigin hlike hq hsame hother)
  · rintro rfl hname
    exact .interface hname (importPath_ne_interface (horigin f hf) hname)

/-- A field of another package takes the name of a type of the same package. -/
theorem resolves_iff_not_clash_sibling :
    let lines : List Text := ["geometry_msgs/Point a", "Point b"]
    let a : Declaration := ⟨"a", "geometry_msgs/Point", ⟨.foreign, "PointMessage",
      some "id.jrosmessages.geometry_msgs.PointMessage", .single⟩, [], []⟩
    let b : Declaration := ⟨"b", "Point", ⟨.sibling, "PointMessage", none, .single⟩, [], []⟩
    let d : Definition := { name := "my_msgs/Line", fields := [a, b] }
    Definition.parse lines "my_msgs/Line" defaultRuntime = .ok d ∧
      Resolves "org.example" defaultRuntime d a ∧ ¬ Resolves "org.example" defaultRuntime d b := by
  intro lines a b d
  have hparse : Definition.parse lines "my_msgs/Line" defaultRuntime = .ok d := by decide +kernel
  have ha : a ∈ d.fields := List.mem_cons_self
  have hb : b ∈ d.fields := List.mem_cons_of_mem a List.mem_cons_self
  refine ⟨hparse, (resolves_iff_not_clash _ _ hparse ha).1.2 ?_, fun hres => ?_⟩
  · rintro (⟨path, himport, hdot⟩ | ⟨hname, -⟩ | ⟨other, path, hmem, himport, hsame, hother⟩ |
      ⟨path, himport, hname, hother⟩)
    · revert hdot
      decide
    · revert hname
      decide
    · simp only [d, List.mem_cons, List.not_mem_nil, or_false] at hmem
      rcases hmem with rfl | rfl
      · exact hother himport
      · cases himport
    · revert hname
      decide +kernel
  · refine (resolves_iff_not_clash _ _ hparse hb).1.1 hres ?_
    exact .field a _ ha rfl (by decide +kernel) (by decide)

end JavaClass

end RosBindings

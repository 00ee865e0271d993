import RosBindings.Dialect
import RosBindings.JavaClass.Render
import RosBindings.Proofs.Fragments
import RosBindings.Proofs.Repetition
import RosBindings.Proofs.Substitution

/-!
# The text of a class in closed form

A class is a list of pieces, each a text at a depth. With the packaged fragments nothing
can fail on the way, and the text of the class is the pieces one below the other, with the
values of the whole class put in at the end.

* `CodeWriter.Wrote` says which pieces a writer holds; one lemma for each way to write.
* `Built` says how far a class has come; one lemma for each section.
* `classPieces` are the pieces of a class, and `render_packaged` is the text in closed form.
-/

namespace RosBindings

/-! ## Pieces -/

/-- A text and the depth it stands at. -/
abbrev Piece := ℕ × Text

namespace CodeWriter

variable {w : CodeWriter} {n : ℕ} {ps : List Piece} {r t : Text}

/-- A text with every row at the given depth. -/
def shift (n : ℕ) (t : Text) : Text := Text.unrows ((Text.rows t).map (indent "    " n))

/-- A piece as it is shown. -/
def shown (p : Piece) : Text := shift p.1 p.2

theorem indent_zero (u r : Text) : indent u 0 r = r := by cases r <;> rfl

@[simp] theorem shift_zero (t : Text) : shift 0 t = t := by
  have hid : indent "    " 0 = id := funext (indent_zero _)
  rw [shift, hid, List.map_id, Text.unrows_rows]

theorem shift_of_not_mem (h : '\n' ∉ t) (n : ℕ) : shift n t = indent "    " n t := by
  rw [shift, Text.rows_of_not_mem h, List.map_singleton, Text.unrows_singleton]

@[simp] theorem shift_nil (n : ℕ) : shift n [] = [] := by
  rw [shift_of_not_mem (by simp)]; rfl

/-- The blanks in front of the rows at a depth. -/
def pad (n : ℕ) : Text := (List.replicate n ("    " : Text)).flatten

theorem shift_eq_pad (h : '\n' ∉ t) (hne : t ≠ []) (n : ℕ) : shift n t = pad n ++ t := by
  rw [shift_of_not_mem h, indent, if_neg (by simpa using hne), pad]

/-- What is not in the unit of indentation is in no indentation. -/
theorem not_mem_flatten_replicate {x : Char} {u : Text} (h : x ∉ u) (n : ℕ) :
    x ∉ (List.replicate n u).flatten := by
  intro hx
  obtain ⟨v, hv, hx⟩ := List.mem_flatten.1 hx
  rw [List.eq_of_mem_replicate hv] at hx
  exact h hx

theorem substitute_pad_append (v : Bindings) (n : ℕ) (t : Text) :
    Placeholder.substitute v (pad n ++ t) = pad n ++ Placeholder.substitute v t :=
  Placeholder.substitute_plain_append (not_mem_flatten_replicate (by decide) n)

/-- Rows that stand at a depth together stand at it one by one. -/
theorem shift_unrows {rs : List Text} (hne : rs ≠ []) (n : ℕ) :
    shift n (Text.unrows rs) = Text.unrows (rs.map (shift n)) := by
  have hrows : ∀ t, (Text.rows t).map (indent "    " n) ≠ [] := by simp
  rw [shift, Text.rows_unrows_flatMap hne, List.map_flatMap, Text.unrows_flatMap hrows]
  rfl

/-- The pieces that a writer at a depth has written. -/
structure Wrote (w : CodeWriter) (n : ℕ) (ps : List Piece) : Prop where
  unit : w.unit = "    "
  level : w.level = n
  text : Text.unrows w.written = Text.unrows (ps.map shown)
  nil_iff : w.written = [] ↔ ps = []

namespace Wrote

theorem of_written {w' : CodeWriter} {m : ℕ} {rs : List Text} {qs : List Piece}
    (h : w.Wrote n ps) (hunit : w'.unit = w.unit) (hlevel : w'.level = m)
    (hwritten : w'.written = w.written ++ rs) (hrs : rs ≠ []) (hqs : qs ≠ [])
    (htext : Text.unrows rs = Text.unrows (qs.map shown)) : w'.Wrote m (ps ++ qs) := by
  refine ⟨hunit.trans h.unit, hlevel, ?_, by simp [hwritten, hrs, hqs]⟩
  have hqs' : qs.map shown ≠ [] := by simpa using hqs
  -- a line feed stands between the old rows and the new ones only if there are old ones
  rw [hwritten, List.map_append]
  by_cases hw : w.written = []
  · rw [hw, h.nil_iff.1 hw]; exact htext
  · have hps : ps.map shown ≠ [] := by simpa using fun hp => hw (h.nil_iff.2 hp)
    rw [Text.unrows_append hw hrs, Text.unrows_append hps hqs', h.text, htext]

theorem row (h : w.Wrote n ps) (hr : n = 0 ∨ '\n' ∉ r) : (w.row r).Wrote n (ps ++ [(n, r)]) := by
  refine h.of_written rfl h.level rfl (by simp) (by simp) ?_
  rw [h.unit, h.level, List.map_singleton, Text.unrows_singleton, Text.unrows_singleton, shown]
  rcases hr with rfl | hr
  · rw [indent_zero, shift_zero]
  · rw [shift_of_not_mem hr]

theorem block (h : w.Wrote n ps) (t : Text) : (w.block t).Wrote n (ps ++ [(n, t)]) := by
  refine h.of_written rfl h.level rfl (by simp) (by simp) ?_
  rw [h.unit, h.level, List.map_singleton, Text.unrows_singleton]
  rfl

/-- A block may be taken row by row. -/
theorem blockRows (h : w.Wrote n ps) {rs : List Text} (hne : rs ≠ []) :
    (w.block (Text.unrows rs)).Wrote n (ps ++ rs.map (Prod.mk n)) := by
  refine h.of_written rfl h.level rfl (by simp) (by simpa using hne) ?_
  rw [h.unit, h.level, List.map_map]
  exact shift_unrows hne n

theorem openBlock (h : w.Wrote n ps) (hr : n = 0 ∨ '\n' ∉ r) :
    (w.openBlock r).Wrote (n + 1) (ps ++ [(n, r)]) := by
  have hrow := h.row hr
  exact ⟨hrow.unit, congrArg (· + 1) hrow.level, hrow.text, hrow.nil_iff⟩

theorem closeBlock (h : w.Wrote (n + 1) ps) (hr : '\n' ∉ r) :
    (w.closeBlock r).Wrote n (ps ++ [(n, r)]) := by
  have hout : ({ w with level := w.level - 1 } : CodeWriter).Wrote n ps :=
    ⟨h.unit, by simp [h.level], h.text, h.nil_iff⟩
  exact hout.row (.inr hr)

end Wrote

end CodeWriter

namespace JavaClass

open Placeholder (substitute)
open Repetition (defaultMarker expandRow)

variable {b : Build} {c : Text} {v : Bindings} {s e : Stage} {n : ℕ} {ps qs : List Piece}

/-- The style that writes classes from the packaged fragments. -/
def Style.packaged (javaPackage runtime : Text) (dialect : Dialect) (files : FileTree) : Style where
  javaPackage
  runtime
  showsChecksum := dialect.hasChecksum
  fragments := TemplateStore.packaged.fragments files

/-- Whether a style writes classes from the packaged fragments. -/
def Style.IsPackaged (style : Style) : Prop :=
  ∃ files, style.fragments = TemplateStore.packaged.fragments files

/-! ## The pieces of a class -/

/-- A fragment as it stands. -/
def fragmentPieces (n : ℕ) (f : Fragment) : List Piece := f.rows.map (Prod.mk n)

/-- A fragment with its marked row repeated. -/
def expandedPieces (n : ℕ) (f : Fragment) (items : List Text) (separator : Text) : List Piece :=
  (f.rows.flatMap (expandRow defaultMarker items separator)).map (Prod.mk n)

/-- The package of the class. -/
def packagePieces (javaPackage : Text) : List Piece :=
  [(0, "package " ++ javaPackage ++ ";"), (0, [])]

/-- The imports. -/
def importPieces (runtime : Text) (d : Definition) : List Piece :=
  (imports runtime d).map (fun path => (0, Template.importRow path)) ++ [(0, [])]

/-- A documentation comment. -/
def docPieces (n : ℕ) (t : Text) : List Piece :=
  (Template.docRows (javadocRows t)).map (Prod.mk n)

/-- The row that opens the class. -/
def classHead : Text :=
  "public class " ++ Placeholder.written "className" ++ " implements Message, Cloneable \x7b"

/-- A declaration with its comment, under the values of the whole class. -/
def declarationPieces (v : Bindings) (n : ℕ) (fragment : Fragment) (f : Declaration) : List Piece :=
  (if f.comment.isEmpty then [] else docPieces n f.comment)
    ++ [(n, substitute (v.extend (fieldValues f.type.name f)) (Text.unrows fragment.rows))]

/-- The row that opens an enumeration. -/
def enumHead (index : ℕ) : Text := "public enum " ++ enumName index ++ " \x7b"

/-- The row that closes the class or an enumeration. -/
def closingRow : Text := "\x7d"

/-- An enumeration. -/
def enumPieces (v : Bindings) (enum : List Declaration × ℕ) : List Piece :=
  [(1, []), (1, enumHead enum.2)] ++ enum.1.flatMap (declarationPieces v 2 .enumMember)
    ++ [(1, closingRow)]

/-- The enumerations and the fields. -/
def fieldPieces (v : Bindings) (d : Definition) : List Piece :=
  d.enums.zipIdx.flatMap (enumPieces v) ++ (if d.fields.isEmpty then [] else [(1, [])])
    ++ d.fields.flatMap fun f => declarationPieces v 1 (fieldFragment f) f

/-- The accessor of a field. -/
def accessorPieces (v : Bindings) (f : Declaration) : List Piece :=
  [(1, []),
   (1, substitute (v.extend (accessorValues f)) (Text.unrows (accessorFragment f).rows))]

/-- A method that names every field. -/
def identityPieces (items : List Text) (f : Fragment) (separator : Text) : List Piece :=
  if items.isEmpty then [] else (1, []) :: expandedPieces 1 f items separator

/-- The values of the whole class. An empty checksum counts as none. -/
def classValues (d : Definition) (checksum : Option Text) : Bindings :=
  let named := Bindings.put "msgName" d.name []
  let summed := match checksum.filter (!·.isEmpty) with
    | some sum => named.put "md5sum" sum
    | none => named
  summed.put "className" (Naming.className d.name)

/-- Whether the annotation shows a checksum. -/
def showsSum (style : Style) (checksum : Option Text) : Bool :=
  style.showsChecksum && (checksum.filter (!·.isEmpty)).isSome

/-- The pieces of the body. -/
def bodyPieces (v : Bindings) (d : Definition) : List Piece :=
  fieldPieces v d ++ d.fields.flatMap (accessorPieces v)
    ++ identityPieces (d.fields.map hashExpression) .hashCode ","
    ++ identityPieces (d.fields.map equalsExpression) .equals " &&"
    ++ identityPieces (d.fields.map textExpression) .toText ","

/-- All pieces of a class, before the values of the whole class are put in. -/
def classPieces (style : Style) (d : Definition) (checksum : Option Text) : List Piece :=
  fragmentPieces 0 .header ++ packagePieces style.javaPackage ++ importPieces style.runtime d
    ++ docPieces 0 (classComment d)
    ++ expandedPieces 0 .metadata (metadataItems d (showsSum style checksum)) ","
    ++ (0, classHead) :: (1, []) :: fragmentPieces 1 .fieldsHeader
    ++ bodyPieces (classValues d checksum) d ++ [(0, closingRow)]

/-! ## Writing the sections -/

/-- A class goes on to any later stage. -/
theorem Build.advance_eq_ok (hfinal : b.stage.isFinal = false) (hlt : b.stage.rank < e.rank) :
    b.advance e = .ok { b with stage := e } := by
  have hstage : Stage.advance b.className b.stage e = .ok e := by
    rw [Stage.advance, hfinal, if_neg (by simp), if_neg (by omega)]
  rw [advance, ask, hstage]

/-- How far a class has come: its name, its values, its stage, the depth of its writer and
the pieces it consists of so far. -/
structure Built (b : Build) (c : Text) (v : Bindings) (s : Stage) (n : ℕ) (ps : List Piece) :
    Prop where
  className : b.className = c
  values : b.values = v
  stage : b.stage = s
  wrote : b.writer.Wrote n ps

namespace Built

theorem write {f : CodeWriter → CodeWriter} {m : ℕ} (h : Built b c v s n ps)
    (hf : (f b.writer).Wrote m qs) : Built (b.write f) c v s m qs :=
  ⟨h.className, h.values, h.stage, hf⟩

theorem put (h : Built b c v s n ps) (name value : Text) :
    Built (b.put name value) c (v.put name value) s n ps :=
  ⟨h.className, congrArg (Bindings.put name value) h.values, h.stage, h.wrote⟩

theorem advance (h : Built b c v s n ps) (hfinal : s.isFinal = false) (hlt : s.rank < e.rank) :
    ∃ b', b.advance e = .ok b' ∧ Built b' c v e n ps :=
  ⟨{ b with stage := e }, Build.advance_eq_ok (h.stage ▸ hfinal) (h.stage ▸ hlt), h.className,
    h.values, rfl, h.wrote⟩

/-- **What each step adds, a whole run adds one after the other.** -/
theorem foldlM {α : Type} {step : Build → α → Except Failure Build} {f : α → List Piece}
    (hstep : ∀ b ps x, Built b c v s n ps → ∃ b', step b x = .ok b' ∧ Built b' c v s n (ps ++ f x))
    (xs : List α) (h : Built b c v s n ps) :
    ∃ b', xs.foldlM step b = .ok b' ∧ Built b' c v s n (ps ++ xs.flatMap f) := by
  induction xs generalizing b ps with
  | nil => exact ⟨b, rfl, by simpa using h⟩
  | cons x xs ih =>
    obtain ⟨b₁, h₁, hb₁⟩ := hstep b ps x h
    obtain ⟨b₂, h₂, hb₂⟩ := ih hb₁
    refine ⟨b₂, ?_, by simpa using hb₂⟩
    rw [List.foldlM_cons, h₁]
    exact h₂

end Built

section Sections

variable {style : Style} {d : Definition}

theorem Style.IsPackaged.plain (hp : style.IsPackaged) {f : Fragment} (hi : f ≠ .imports)
    (hd : f ≠ .javadoc) : style.fragment f [] = .ok (Text.unrows f.rows) := by
  obtain ⟨files, hfiles⟩ := hp
  rw [Style.fragment, hfiles, TemplateStore.packaged_plain files hi hd]

theorem rows_ne_nil (f : Fragment) : f.rows ≠ [] := by cases f <;> exact List.cons_ne_nil _ _

/-- What every enumeration adds does not depend on its place. -/
theorem flatMap_zipIdx {α β : Type} (g : α → List β) (xs : List α) :
    xs.zipIdx.flatMap (fun x => g x.1) = xs.flatMap g := by
  rw [← List.flatMap_map Prod.fst, List.zipIdx_map_fst]

theorem not_mem_of_mem_rows {f : Fragment} {r : Text} (hr : r ∈ f.rows) : '\n' ∉ r := by
  have hall : f.rows.all (fun r => !r.contains '\n') = true := by cases f <;> decide +kernel
  simpa using List.all_eq_true.1 hall r hr

theorem expand_fragment (f : Fragment) {items : List Text} (hne : items ≠ []) (separator : Text) :
    Repetition.expand defaultMarker (Text.unrows f.rows) items separator =
      some (Text.unrows (f.rows.flatMap (expandRow defaultMarker items separator))) := by
  rw [Repetition.expand, if_neg (by simpa using hne),
    Text.rows_unrows (fun r hr => not_mem_of_mem_rows hr) (rows_ne_nil f)]

theorem wrote_expanded {w : CodeWriter} (hw : w.Wrote n ps) (f : Fragment) {items : List Text}
    (hne : items ≠ []) (separator : Text) :
    (w.block (Text.unrows (f.rows.flatMap (expandRow defaultMarker items separator)))).Wrote n
      (ps ++ expandedPieces n f items separator) := by
  refine hw.blockRows ?_
  obtain ⟨r, rs, hr⟩ := List.exists_cons_of_ne_nil (rows_ne_nil f)
  rw [hr, List.flatMap_cons]
  simp [Repetition.expandRow_ne_nil hne]

theorem writeJavadoc_eq (hp : style.IsPackaged) (t : Text) (b : Build) :
    writeJavadoc style t b =
      .ok (b.write (·.block (Text.unrows (Template.docRows (javadocRows t))))) := by
  obtain ⟨files, hfiles⟩ := hp
  rw [writeJavadoc, Style.fragment, hfiles, TemplateStore.packaged_javadoc]
  rfl

theorem writeJavadoc_spec (hp : style.IsPackaged) (t : Text) (h : Built b c v s n ps) :
    ∃ b', writeJavadoc style t b = .ok b' ∧ Built b' c v s n (ps ++ docPieces n t) :=
  ⟨_, writeJavadoc_eq hp t b, h.write (h.wrote.blockRows (by simp [Template.docRows]))⟩

theorem writeHeader_spec (hp : style.IsPackaged) (h : Built b c v .start n ps) :
    ∃ b', writeHeader style b = .ok b' ∧
      Built b' c v .headerEmitted n (ps ++ fragmentPieces n .header) := by
  rw [writeHeader, hp.plain (by decide) (by decide)]
  exact (h.write (h.wrote.blockRows (rows_ne_nil _))).advance rfl (by decide)

theorem writePackage_spec (style : Style) (h : Built b c v .headerEmitted 0 ps) :
    ∃ b', writePackage style b = .ok b' ∧
      Built b' c v .packageEmitted 0 (ps ++ packagePieces style.javaPackage) := by
  have hrow := h.wrote.row (r := "package " ++ style.javaPackage ++ ";") (.inl rfl)
  have hblank := hrow.row (r := []) (.inl rfl)
  rw [List.append_assoc ps] at hblank
  exact (h.write hblank).advance rfl (by decide)

theorem insertSorted_ne_nil (t : Text) (us : List Text) : Text.insertSorted t us ≠ [] := by
  unfold Text.insertSorted
  split
  · simp
  · split_ifs <;> simp

/-- What a class has to import. -/
inductive Needs (runtime : Text) (d : Definition) : Text → Prop
  /-- Every class is a message. -/
  | message : Needs runtime d (runtime ++ ".Message")
  /-- Every class is annotated. -/
  | metadata : Needs runtime d (runtime ++ ".MessageMetadata")
  /-- The class of a field, unless it needs no import. -/
  | fieldType {f : Declaration} {path : Text} (hf : f ∈ d.fields)
      (himport : f.type.importPath = some path) (hne : path ≠ []) : Needs runtime d path
  /-- Arrays are hashed and compared by their elements. -/
  | arrays {f : Declaration} (hf : f ∈ d.fields) (harray : f.type.arity.isArray = true) :
      Needs runtime d "java.util.Arrays"
  /-- Fields are hashed and compared. -/
  | objects (hne : d.fields ≠ []) : Needs runtime d "java.util.Objects"
  /-- Fields are shown. -/
  | json (hne : d.fields ≠ []) : Needs runtime d "id.xfunction.XJson"

theorem mem_fieldImports_iff {path : Text} {f : Declaration} :
    path ∈ fieldImports f ↔ (f.type.arity.isArray = true ∧ path = arraysImport) ∨
      (f.type.importPath = some path ∧ path ≠ []) := by
  have harrays : path ∈ (if f.type.arity.isArray then [arraysImport] else []) ↔
      f.type.arity.isArray = true ∧ path = arraysImport := by
    split <;> simp_all
  have himport : path ∈ (importPath? f).toList ↔ f.type.importPath = some path ∧ path ≠ [] := by
    rw [Option.mem_toList, importPath?, Option.filter_eq_some_iff]
    simp
  rw [fieldImports, List.mem_append, harrays, himport]

/-- **A class imports what it needs, and nothing else.** -/
theorem mem_imports_iff {runtime path : Text} {d : Definition} :
    path ∈ imports runtime d ↔ Needs runtime d path := by
  have hmethods : path ∈ (if d.fields.isEmpty then [] else [objectsImport, jsonImport]) ↔
      d.fields ≠ [] ∧ (path = objectsImport ∨ path = jsonImport) := by
    split <;> simp_all
  rw [imports, Text.mem_sortedSet_iff, List.mem_append, List.mem_append, hmethods,
    List.mem_flatMap]
  simp only [List.mem_cons, List.not_mem_nil, or_false, mem_fieldImports_iff]
  constructor
  · rintro (((rfl | rfl) | ⟨f, hf, ⟨harray, rfl⟩ | ⟨himport, hne⟩⟩) | ⟨hne, rfl | rfl⟩)
    · exact .message
    · exact .metadata
    · exact .arrays hf harray
    · exact .fieldType hf himport hne
    · exact .objects hne
    · exact .json hne
  · intro h
    cases h with
    | message => exact .inl (.inl (.inl rfl))
    | metadata => exact .inl (.inl (.inr rfl))
    | fieldType hf himport hne => exact .inl (.inr ⟨_, hf, .inr ⟨himport, hne⟩⟩)
    | arrays hf harray => exact .inl (.inr ⟨_, hf, .inl ⟨harray, rfl⟩⟩)
    | objects hne => exact .inr ⟨hne, .inl rfl⟩
    | json hne => exact .inr ⟨hne, .inr rfl⟩

/-- What methods need, whatever the types of the fields are. -/
def fixedImports : List Text := [arraysImport, objectsImport, jsonImport]

/-- What is imported are the types of the runtime, what methods need, and types of fields. -/
theorem mem_imports {runtime path : Text} {d : Definition} (h : path ∈ imports runtime d) :
    (path = runtime ++ ".Message" ∨ path = runtime ++ ".MessageMetadata") ∨
      path ∈ fixedImports ∨ ∃ f ∈ d.fields, f.type.importPath = some path := by
  cases mem_imports_iff.1 h with
  | message => exact .inl (.inl rfl)
  | metadata => exact .inl (.inr rfl)
  | fieldType hf himport => exact .inr (.inr ⟨_, hf, himport⟩)
  | arrays | objects | json => exact .inr (.inl (by decide))

theorem imports_ne_nil (runtime : Text) (d : Definition) : imports runtime d ≠ [] := by
  unfold imports Text.sortedSet
  exact insertSorted_ne_nil _ _

/-- The import section has a row for each path. -/
theorem Style.IsPackaged.importRows (hp : style.IsPackaged) (paths : List Text) :
    style.fragment .imports [("imports", .list paths)] =
      .ok (Text.unrows (paths.map Template.importRow)) := by
  obtain ⟨files, hfiles⟩ := hp
  rw [Style.fragment, hfiles, TemplateStore.packaged_imports]

theorem writeImports_spec (hp : style.IsPackaged) (h : Built b c v .packageEmitted 0 ps) :
    ∃ b', writeImports style d b = .ok b' ∧
      Built b' c v .importsEmitted 0 (ps ++ importPieces style.runtime d) := by
  have hne : (imports style.runtime d).map Template.importRow ≠ [] := by
    simpa using imports_ne_nil _ _
  have hblock := h.wrote.blockRows hne
  have hblank := hblock.row (r := []) (.inl rfl)
  rw [List.append_assoc, List.map_map] at hblank
  rw [writeImports, hp.importRows]
  exact (h.write hblank).advance rfl (by decide)

theorem writeClassComment_spec (hp : style.IsPackaged) (h : Built b c v .importsEmitted n ps) :
    ∃ b', writeClassComment style d b = .ok b' ∧
      Built b' c v .docEmitted n (ps ++ docPieces n (classComment d)) := by
  obtain ⟨b₁, h₁, hb₁⟩ := writeJavadoc_spec hp (classComment d) h
  rw [writeClassComment, h₁]
  exact hb₁.advance rfl (by decide)

theorem writeMetadata_spec (hp : style.IsPackaged) (checksum : Option Text)
    (h : Built b c v .docEmitted n ps) :
    ∃ b', writeMetadata style d checksum b = .ok b' ∧
      Built b' c v .metadataEmitted n (ps ++ expandedPieces n .metadata
        (metadataItems d (style.showsChecksum && checksum.isSome)) ",") := by
  have hne : metadataItems d (style.showsChecksum && checksum.isSome) ≠ [] :=
    List.append_ne_nil_of_left_ne_nil (List.cons_ne_nil _ _) _
  rw [writeMetadata, hp.plain (by decide) (by decide)]
  have hb := h.write (f := fun w => w.block _) (wrote_expanded h.wrote .metadata hne ",")
  obtain ⟨b', h', hb'⟩ := hb.advance (e := .metadataEmitted) rfl (by decide)
  refine ⟨b', ?_, hb'⟩
  rw [← h']
  simp only [bind, Except.bind, expand_fragment .metadata hne, Option.getD_some]

theorem openBody_spec (hp : style.IsPackaged) (h : Built b c v .metadataEmitted 0 ps) :
    ∃ b', openBody style b = .ok b' ∧
      Built b' c v .bodyOpen 1 (ps ++ (0, classHead) :: (1, []) :: fragmentPieces 1 .fieldsHeader) := by
  have hopen := h.wrote.openBlock (r := classHead) (.inl rfl)
  have hblank := hopen.row (r := []) (.inr (by simp))
  have hblock := hblank.blockRows (rows_ne_nil .fieldsHeader)
  rw [List.append_assoc, List.append_assoc] at hblock
  rw [openBody, hp.plain (by decide) (by decide)]
  exact (h.write hblock).advance rfl (by decide)

theorem writeDeclaration_spec (hp : style.IsPackaged) (fragment : Fragment)
    (hi : fragment ≠ .imports) (hd : fragment ≠ .javadoc) (f : Declaration)
    (h : Built b c v s n ps) :
    ∃ b', writeDeclaration style fragment b f = .ok b' ∧
      Built b' c v s n (ps ++ declarationPieces v n fragment f) := by
  -- what follows the comment, whether there is one or not
  have hrest : ∀ b₁ qs, Built b₁ c v s n qs → ∃ b',
      (do
        let t ← style.fragment fragment []
        pure (b₁.write (·.block (substitute (b₁.values.extend (fieldValues f.type.name f)) t)))) =
        Except.ok b' ∧ Built b' c v s n (qs ++ [(n, substitute
          (v.extend (fieldValues f.type.name f)) (Text.unrows fragment.rows))]) := by
    intro b₁ qs hb₁
    rw [hp.plain hi hd, hb₁.values]
    exact ⟨_, rfl, hb₁.write (hb₁.wrote.block _)⟩
  unfold writeDeclaration declarationPieces
  split
  · exact hrest b ps h
  · obtain ⟨b₁, h₁, hb₁⟩ := writeJavadoc_spec hp f.comment h
    rw [h₁, ← List.append_assoc]
    exact hrest b₁ _ hb₁

theorem not_mem_ofNat {x : Char} (hx : x.isDigit = false) (k : ℕ) : x ∉ Text.ofNat k := by
  intro h
  have hdigit := Nat.isDigit_of_mem_toDigits (by decide) (by decide) h
  rw [hx] at hdigit
  cases hdigit

theorem not_mem_enumHead {x : Char} (hdigit : x.isDigit = false)
    (hx : x ∉ ("public enum UnknownType \x7b" : Text)) (index : ℕ) : x ∉ enumHead index := by
  have hnumber := not_mem_ofNat hdigit (index + 1)
  unfold enumHead enumName
  split <;> simp_all

theorem writeEnum_spec (hp : style.IsPackaged) (enum : List Declaration × ℕ)
    (h : Built b c v s 1 ps) :
    ∃ b', writeEnum style b enum = .ok b' ∧ Built b' c v s 1 (ps ++ enumPieces v enum) := by
  have hblank := h.wrote.row (r := []) (.inr (by simp))
  have hopen := hblank.openBlock (r := enumHead enum.2) (.inr (not_mem_enumHead (by decide) (by decide) _))
  obtain ⟨b₁, h₁, hb₁⟩ := Built.foldlM
    (fun b ps f hb => writeDeclaration_spec hp .enumMember (by decide) (by decide) f hb) enum.1
    (h.write (f := fun w => (w.row []).openBlock (enumHead enum.2)) hopen)
  have hclose := hb₁.wrote.closeBlock (r := closingRow) (by decide)
  -- the members are written one level deeper, and the closing row is back at the old one
  have hpieces : ps ++ enumPieces v enum = ps ++ [(1, [])] ++ [(1, enumHead enum.2)]
      ++ enum.1.flatMap (declarationPieces v 2 .enumMember) ++ [(1, closingRow)] := by
    simp [enumPieces]
  rw [hpieces]
  refine ⟨_, ?_, hb₁.write (f := fun w => w.closeBlock closingRow) hclose⟩
  exact congrArg (· >>= fun b => pure (b.write fun w => w.closeBlock closingRow)) h₁

theorem fieldFragment_tagless (f : Declaration) :
    fieldFragment f ≠ .imports ∧ fieldFragment f ≠ .javadoc := by
  unfold fieldFragment
  split_ifs <;> decide

theorem writeFields_spec (hp : style.IsPackaged) (h : Built b c v .bodyOpen 1 ps) :
    ∃ b', writeFields style d b = .ok b' ∧
      Built b' c v .fieldsEmitted 1 (ps ++ fieldPieces v d) := by
  obtain ⟨b₁, h₁, hb₁⟩ := Built.foldlM (fun b ps e hb => writeEnum_spec hp e hb) d.enums.zipIdx h
  have hblank : Built (if d.fields.isEmpty then b₁ else b₁.write (·.row [])) c v .bodyOpen 1
      (ps ++ d.enums.zipIdx.flatMap (enumPieces v)
        ++ if d.fields.isEmpty then [] else [(1, [])]) := by
    split
    · simpa using hb₁
    · exact hb₁.write (hb₁.wrote.row (.inr (by simp)))
  obtain ⟨b₂, h₂, hb₂⟩ := Built.foldlM (fun b ps f hb => writeDeclaration_spec hp _
    (fieldFragment_tagless f).1 (fieldFragment_tagless f).2 f hb) d.fields hblank
  obtain ⟨b₃, h₃, hb₃⟩ := hb₂.advance (e := .fieldsEmitted) rfl (by decide)
  refine ⟨b₃, ?_, by simpa only [fieldPieces, List.append_assoc] using hb₃⟩
  rw [writeFields, h₁, ← h₃]
  exact congrArg (· >>= fun b => b.advance .fieldsEmitted) h₂

theorem accessorFragment_tagless (f : Declaration) :
    accessorFragment f ≠ .imports ∧ accessorFragment f ≠ .javadoc := by
  unfold accessorFragment
  split_ifs <;> decide

theorem writeAccessor_spec (hp : style.IsPackaged) (f : Declaration) (h : Built b c v s 1 ps) :
    ∃ b', writeAccessor style b f = .ok b' ∧ Built b' c v s 1 (ps ++ accessorPieces v f) := by
  have hblank := h.wrote.row (r := []) (.inr (by simp))
  have hblock := hblank.block
    (substitute (v.extend (accessorValues f)) (Text.unrows (accessorFragment f).rows))
  rw [List.append_assoc] at hblock
  rw [writeAccessor, hp.plain (accessorFragment_tagless f).1 (accessorFragment_tagless f).2,
    h.values]
  exact ⟨_, rfl, h.write hblock⟩

theorem writeAccessors_spec (hp : style.IsPackaged) (h : Built b c v .fieldsEmitted 1 ps) :
    ∃ b', writeAccessors style d b = .ok b' ∧
      Built b' c v .accessorsEmitted 1 (ps ++ d.fields.flatMap (accessorPieces v)) := by
  obtain ⟨b₁, h₁, hb₁⟩ := Built.foldlM (fun b ps f hb => writeAccessor_spec hp f hb) d.fields h
  rw [writeAccessors, h₁]
  exact hb₁.advance rfl (by decide)

theorem writeIdentityMethod_spec (hp : style.IsPackaged) (fragment : Fragment)
    (hi : fragment ≠ .imports) (hd : fragment ≠ .javadoc) (items : List Text) (separator : Text)
    (h : Built b c v s 1 ps) :
    ∃ b', writeIdentityMethod style items fragment separator b = .ok b' ∧
      Built b' c v s 1 (ps ++ identityPieces items fragment separator) := by
  rw [writeIdentityMethod, hp.plain hi hd]
  by_cases hne : items = []
  · subst hne
    exact ⟨b, rfl, by simpa [identityPieces] using h⟩
  · have hblank := h.wrote.row (r := []) (.inr (by simp))
    have hblock := wrote_expanded hblank fragment hne separator
    rw [List.append_assoc] at hblock
    have hpieces : identityPieces items fragment separator =
        [(1, [])] ++ expandedPieces 1 fragment items separator := by
      rw [identityPieces, if_neg (by simpa using hne)]; rfl
    refine ⟨_, ?_, hpieces ▸ h.write (f := fun w => (w.row []).block _) hblock⟩
    simp only [bind, Except.bind, expand_fragment fragment hne separator]
    rfl

theorem writeIdentityMethods_spec (hp : style.IsPackaged) (h : Built b c v .accessorsEmitted 1 ps) :
    ∃ b', writeIdentityMethods style d b = .ok b' ∧ Built b' c v .identityMethodsEmitted 1
      (ps ++ identityPieces (d.fields.map hashExpression) .hashCode ","
        ++ identityPieces (d.fields.map equalsExpression) .equals " &&"
        ++ identityPieces (d.fields.map textExpression) .toText ",") := by
  obtain ⟨b₁, h₁, hb₁⟩ := writeIdentityMethod_spec hp .hashCode (by decide)
    (by decide) (d.fields.map hashExpression) "," h
  obtain ⟨b₂, h₂, hb₂⟩ := writeIdentityMethod_spec hp .equals (by decide)
    (by decide) (d.fields.map equalsExpression) " &&" hb₁
  obtain ⟨b₃, h₃, hb₃⟩ := writeIdentityMethod_spec hp .toText (by decide)
    (by decide) (d.fields.map textExpression) "," hb₂
  obtain ⟨b₄, h₄, hb₄⟩ := hb₃.advance (e := .identityMethodsEmitted) rfl (by decide)
  refine ⟨b₄, ?_, hb₄⟩
  simp only [writeIdentityMethods, h₁, h₂, h₃, h₄, bind, Except.bind]

theorem closeBody_spec (h : Built b c v .identityMethodsEmitted 1 ps) :
    ∃ b', closeBody b = .ok b' ∧ Built b' c v .bodyClosed 0 (ps ++ [(0, closingRow)]) :=
  (h.write (h.wrote.closeBlock (by decide))).advance rfl (by decide)

/-- All sections of a class, from its name to the end of its body. -/
def writeSections (style : Style) (d : Definition) (sum : Option Text) (b : Build) :
    Except Failure Build := do
  let b ← writeHeader style b
  let b ← writePackage style b
  let b ← writeImports style d b
  let b ← writeClassComment style d b
  let b ← writeMetadata style d sum b
  let b ← openBody style (b.put "className" b.className)
  let b ← writeFields style d b
  let b ← writeAccessors style d b
  let b ← writeIdentityMethods style d b
  closeBody b

theorem writeSections_spec (hp : style.IsPackaged) (d : Definition) (sum : Option Text)
    (h : Built b c v .start 0 []) :
    ∃ b', writeSections style d sum b = .ok b' ∧
      Built b' c (v.put "className" c) .bodyClosed 0
        (fragmentPieces 0 .header ++ packagePieces style.javaPackage
          ++ importPieces style.runtime d ++ docPieces 0 (classComment d)
          ++ expandedPieces 0 .metadata (metadataItems d (style.showsChecksum && sum.isSome)) ","
          ++ (0, classHead) :: (1, []) :: fragmentPieces 1 .fieldsHeader
          ++ bodyPieces (v.put "className" c) d ++ [(0, closingRow)]) := by
  obtain ⟨b₁, h₁, hb₁⟩ := writeHeader_spec hp h
  obtain ⟨b₂, h₂, hb₂⟩ := writePackage_spec style hb₁
  obtain ⟨b₃, h₃, hb₃⟩ := writeImports_spec (d := d) hp hb₂
  obtain ⟨b₄, h₄, hb₄⟩ := writeClassComment_spec (d := d) hp hb₃
  obtain ⟨b₅, h₅, hb₅⟩ := writeMetadata_spec (d := d) hp sum hb₄
  -- the class is named only now; what was written so far holds its placeholder
  obtain ⟨b₆, h₆, hb₆⟩ := openBody_spec hp (hb₅.put "className" c)
  obtain ⟨b₇, h₇, hb₇⟩ := writeFields_spec (d := d) hp hb₆
  obtain ⟨b₈, h₈, hb₈⟩ := writeAccessors_spec (d := d) hp hb₇
  obtain ⟨b₉, h₉, hb₉⟩ := writeIdentityMethods_spec (d := d) hp hb₈
  obtain ⟨b₁₀, h₁₀, hb₁₀⟩ := closeBody_spec hb₉
  refine ⟨b₁₀, ?_, ?_⟩
  · simp only [writeSections, bind, Except.bind, h₁, h₂, h₃, h₄, h₅, hb₅.className, h₆, h₇, h₈,
      h₉, h₁₀]
  · simpa only [bodyPieces, List.append_assoc, List.nil_append] using hb₁₀

/-- The text of a class in closed form: its pieces one below the other, with the values of
the whole class put into each of them. -/
def classText (style : Style) (d : Definition) (checksum : Option Text) : Text :=
  Text.unrows ((classPieces style d checksum).map fun p =>
    substitute (classValues d checksum) (CodeWriter.shown p)) ++ ['\n']

theorem substitute_text (v : Bindings) (ts : List Text) :
    substitute v (Text.unrows ts ++ ['\n']) = Text.unrows (ts.map (substitute v)) ++ ['\n'] := by
  rw [Placeholder.substitute_append (by decide), Placeholder.substitute_unrows,
    Placeholder.substitute_plain (t := ['\n']) (by decide)]

/-- A class with the values that are known from the start. -/
def named (d : Definition) (sum : Option Text) (b : Build) : Build :=
  match sum with
  | some sum => (b.put "msgName" d.name).put "md5sum" sum
  | none => b.put "msgName" d.name

theorem build_eq (style : Style) (d : Definition) (checksum : Option Text) (b : Build) :
    build style d checksum b =
      (do
        let b ← writeSections style d (checksum.filter (!·.isEmpty))
          (named d (checksum.filter (!·.isEmpty)) b)
        let b' ← b.advance .globalSubstituted
        pure (b', substitute b.values b.writer.text)) := by
  -- the checksum decides about one value only, and what follows is the same
  unfold build writeSections named
  cases checksum.filter (!·.isEmpty) <;> simp only [bind_assoc]

theorem built_named (className : Text) (d : Definition) (sum : Option Text) :
    Built (named d sum { className }) className (named d sum { className }).values .start 0 [] := by
  have hstart : Built ({ className } : Build) className [] .start 0 [] :=
    ⟨rfl, rfl, rfl, rfl, rfl, rfl, by simp⟩
  have hname := hstart.put "msgName" d.name
  cases sum with
  | none => exact hname
  | some sum => exact hname.put "md5sum" sum

theorem named_spec (d : Definition) (checksum : Option Text) :
    ∃ v, Built (named d (checksum.filter (!·.isEmpty)) { className := Naming.className d.name })
        (Naming.className d.name) v .start 0 [] ∧
      v.put "className" (Naming.className d.name) = classValues d checksum := by
  refine ⟨_, built_named _ d _, ?_⟩
  unfold named classValues
  cases checksum.filter (!·.isEmpty) <;> rfl

/-- **Under the packaged fragments every class has a text**, and it is the closed form. This is
said of definitions whose sizes have at most `Numeral.maxDigits` digits, as all have that are
read. -/
theorem render_packaged (hp : style.IsPackaged) (d : Definition) (checksum : Option Text) :
    render style d checksum = .ok (classText style d checksum) := by
  obtain ⟨v, hb, hv⟩ := named_spec d checksum
  obtain ⟨b₁, h₁, hb₁⟩ := writeSections_spec hp d (checksum.filter (!·.isEmpty)) hb
  obtain ⟨b₂, h₂, -⟩ := hb₁.advance (e := .globalSubstituted) rfl (by decide)
  rw [hv] at hb₁
  rw [render, build_eq, h₁]
  simp only [bind, Except.bind, h₂, pure, Except.pure, Except.map, hb₁.values, CodeWriter.text,
    hb₁.wrote.text, substitute_text, List.map_map]
  rfl

/-- So does a class under another name than that of its message. -/
theorem build_packaged (hp : style.IsPackaged) (d : Definition) (checksum : Option Text)
    (className : Text) : ∃ built, build style d checksum { className } = .ok built := by
  obtain ⟨b₁, h₁, hb₁⟩ := writeSections_spec hp d (checksum.filter (!·.isEmpty))
    (built_named className d _)
  obtain ⟨b₂, h₂, -⟩ := hb₁.advance (e := .globalSubstituted) rfl (by decide)
  rw [build_eq, h₁]
  simp only [bind, Except.bind, h₂]
  exact ⟨_, rfl⟩

end Sections

end JavaClass

end RosBindings

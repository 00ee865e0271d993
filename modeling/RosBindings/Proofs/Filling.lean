import RosBindings.Proofs.ClassText
import RosBindings.Proofs.Names

/-!
# Filling sections in place

A class can be written without placeholders: every section is filled when it is written,
and nothing is put in afterwards. `Filled` is this way of writing a class.

* `DollarFree` says that no dollar sign comes in from outside.
* `map_classPieces`: the values that are put in over the complete text end up where filling
  in place would have put them. The one difference is the constant that holds the name of
  the message: filled in place, all rows of the name would be indented.
-/

namespace RosBindings.JavaClass

open CodeWriter (shift shown)
open Placeholder (substitute)

/-! ## Sections filled in place -/

namespace Filled

/-- The comment at the top of the file. -/
def headerRows (name : Text) : List Text :=
  ["/*",
   " * Generated by msgmonster from the ROS message definition " ++ name ++ ".",
   " */"]

/-- The items of the annotation. -/
def annotationItems (cls : Text) (d : Definition) (sum : Option Text) : List Text :=
  ("name = " ++ cls ++ ".NAME")
    :: (if 1 < d.fields.length then
        ["fields = \x7b " ++ Text.join ", " (d.fields.map fun f => literal f.name) ++ " \x7d"]
      else [])
    ++ (sum.map fun sum => ("md5sum = " : Text) ++ literal sum).toList

/-- The annotation of the class. -/
def annotationRows (cls : Text) (d : Definition) (sum : Option Text) : List Text :=
  "@MessageMetadata(" :: Repetition.copies "        " "," ")" (annotationItems cls d sum)

/-- The row that opens the class. -/
def headRow (cls : Text) : Text := "public class " ++ cls ++ " implements Message, Cloneable \x7b"

/-- The row of the constant that holds the name of the message. -/
def nameRow (name : Text) : Text := "static final String NAME = \"" ++ name ++ "\";"

/-- The method that copies an object. -/
def copyRows (cls : Text) : List Text :=
  [[],
   "private " ++ cls ++ " copy() \x7b",
   "    try \x7b",
   "        return (" ++ cls ++ ") super.clone();",
   "    \x7d catch (CloneNotSupportedException e) \x7b",
   "        throw new IllegalStateException(e);",
   "    \x7d",
   "\x7d"]

/-- The declaration of a member of an enumeration. -/
def memberText (f : Declaration) : Text := f.name ++ ","

/-- The declaration of a field. -/
def fieldText (f : Declaration) : Text :=
  let size := Text.ofNat f.type.arity.size
  if f.type.arity.isArray then
    "public " ++ f.type.name ++ "[] " ++ f.name ++ " = new " ++ f.type.name
      ++ "[" ++ (if 0 < f.type.arity.size then size else "0") ++ "];"
  else if f.type.kind = .primitive then
    "public " ++ f.type.name ++ " " ++ f.name ++ ";"
  else
    "public " ++ f.type.name ++ " " ++ f.name ++ " = new " ++ f.type.name ++ "();"

/-- The rows of an accessor that check the size of an array. -/
def sizeCheck (f : Declaration) : List Text :=
  let size := Text.ofNat f.type.arity.size
  ["    if (" ++ f.name ++ ".length != " ++ size ++ ")",
   "        throw new IllegalArgumentException(",
   "                \"" ++ f.name ++ " expects \" + " ++ size ++ " + \" elements, got \" + "
     ++ f.name ++ ".length);"]

/-- The rows of an accessor that set the field. -/
def assignment (f : Declaration) : List Text :=
  ["    var copy = copy();",
   "    copy." ++ f.name ++ " = " ++ f.name ++ ";",
   "    return copy;",
   "\x7d"]

/-- The accessor of a field. -/
def accessorRows (cls : Text) (f : Declaration) : List Text :=
  ("public " ++ cls ++ " " ++ Naming.accessorName "with" f.name ++ "(" ++ parameterType f ++ " "
      ++ f.name ++ ") \x7b")
    :: ((if f.type.arity.isArray && decide (0 < f.type.arity.size) then sizeCheck f else [])
      ++ assignment f)

/-- A method that names every field, one in a row. -/
def methodRows (top items bottom : List Text) (separator tail : Text) : List Text :=
  top ++ Repetition.copies "            " separator tail items ++ bottom

/-- The hash method. -/
def hashRows (d : Definition) : List Text :=
  methodRows ["@Override", "public int hashCode() \x7b", "    return Objects.hash("]
    (d.fields.map hashExpression) ["\x7d"] "," ");"

/-- The comparison method. -/
def equalsRows (cls : Text) (d : Definition) : List Text :=
  methodRows ["@Override", "public boolean equals(Object obj) \x7b",
      "    if (obj instanceof " ++ cls ++ " other)", "        return"]
    (d.fields.map equalsExpression) ["    return false;", "\x7d"] " &&" ";"

/-- The method that shows an object as text. -/
def textRows (d : Definition) : List Text :=
  methodRows ["@Override", "public String toString() \x7b", "    return XJson.asString("]
    (d.fields.map textExpression) ["\x7d"] "," ");"

/-- Rows at a depth. -/
def atDepth (n : ℕ) (rows : List Text) : List Piece := rows.map (Prod.mk n)

/-- A declaration with its comment. -/
def declarationPieces (n : ℕ) (text : Text) (f : Declaration) : List Piece :=
  (if f.comment.isEmpty then [] else docPieces n f.comment) ++ [(n, text)]

/-- An enumeration. -/
def enumPieces (enum : List Declaration × ℕ) : List Piece :=
  [(1, []), (1, enumHead enum.2)]
    ++ enum.1.flatMap (fun f => declarationPieces 2 (memberText f) f) ++ [(1, closingRow)]

/-- The enumerations and the fields. -/
def fieldPieces (d : Definition) : List Piece :=
  d.enums.zipIdx.flatMap enumPieces ++ (if d.fields.isEmpty then [] else [(1, [])])
    ++ d.fields.flatMap fun f => declarationPieces 1 (fieldText f) f

/-- The methods; a class without fields has none of those that name every field. -/
def methodPieces (cls : Text) (d : Definition) : List Piece :=
  (d.fields.flatMap fun f => [(1, []), (1, Text.unrows (accessorRows cls f))])
    ++ if d.fields.isEmpty then [] else
      atDepth 1 ([] :: hashRows d ++ [] :: equalsRows cls d ++ [] :: textRows d)

/-- The checksum that is shown: there is none in a style without checksums, nor an empty one. -/
def sum? (style : Style) (checksum : Option Text) : Option Text :=
  if style.showsChecksum then checksum.filter (!·.isEmpty) else none

/-- What comes before the constant that holds the name of the message. -/
def before (style : Style) (d : Definition) (checksum : Option Text) : List Piece :=
  let cls := Naming.className d.name
  atDepth 0 (headerRows d.name) ++ packagePieces style.javaPackage
    ++ importPieces style.runtime d ++ docPieces 0 (classComment d)
    ++ atDepth 0 (annotationRows cls d (sum? style checksum)) ++ [(0, headRow cls), (1, [])]

/-- What comes after that constant. -/
def after (d : Definition) : List Piece :=
  let cls := Naming.className d.name
  atDepth 1 (copyRows cls) ++ fieldPieces d ++ methodPieces cls d ++ [(0, closingRow)]

/-- A class filled in place, with the constant that holds the name as it is shown. -/
def textAround (style : Style) (d : Definition) (checksum : Option Text) (constant : Text) : Text :=
  Text.unrows ((before style d checksum).map shown ++ constant :: (after d).map shown) ++ ['\n']

/-- A class with all its sections filled in place, and laid out when they are. -/
def text (style : Style) (d : Definition) (checksum : Option Text) : Text :=
  textAround style d checksum (shown (1, nameRow d.name))

end Filled

/-! ## Values and their places -/

section Values

variable {v : Bindings} {f : Declaration} {typeName : Text}

theorem lookup_fieldType :
    (v.extend (fieldValues typeName f)).lookup ("fieldType" : Text) = some typeName := by
  simp only [Bindings.extend, fieldValues, List.foldl_cons, List.foldl_nil]
  rw [Bindings.lookup_put_of_ne (by decide), Bindings.lookup_put_of_ne (by decide),
    Bindings.lookup_put_self]

theorem lookup_fieldName :
    (v.extend (fieldValues typeName f)).lookup ("fieldName" : Text) = some f.name := by
  simp only [Bindings.extend, fieldValues, List.foldl_cons, List.foldl_nil]
  rw [Bindings.lookup_put_of_ne (by decide), Bindings.lookup_put_self]

theorem lookup_arraySize :
    (v.extend (fieldValues typeName f)).lookup ("arraySize" : Text) =
      some (Text.ofNat f.type.arity.size) := by
  simp only [Bindings.extend, fieldValues, List.foldl_cons, List.foldl_nil]
  rw [Bindings.lookup_put_self]

/-- The values of a field hide no others. -/
theorem lookup_extend_fieldValues {key : Text} (ht : key ≠ "fieldType") (hn : key ≠ "fieldName")
    (hs : key ≠ "arraySize") :
    (v.extend (fieldValues typeName f)).lookup key = v.lookup key := by
  simp only [Bindings.extend, fieldValues, List.foldl_cons, List.foldl_nil]
  rw [Bindings.lookup_put_of_ne hs, Bindings.lookup_put_of_ne hn, Bindings.lookup_put_of_ne ht]

/-- The values of an accessor are those of its field and its own name. -/
theorem extend_accessorValues (v : Bindings) (f : Declaration) :
    v.extend (accessorValues f) =
      (v.put "methodName" (Naming.accessorName "with" f.name)).extend
        (fieldValues (parameterType f) f) := by
  unfold accessorValues Bindings.extend
  rw [List.foldl_cons]

theorem lookup_methodName :
    (v.extend (accessorValues f)).lookup ("methodName" : Text) =
      some (Naming.accessorName "with" f.name) := by
  rw [extend_accessorValues, lookup_extend_fieldValues (by decide) (by decide) (by decide),
    Bindings.lookup_put_self]

variable (d : Definition) (checksum : Option Text)

theorem lookup_className :
    (classValues d checksum).lookup ("className" : Text) = some (Naming.className d.name) :=
  Bindings.lookup_put_self

theorem lookup_msgName : (classValues d checksum).lookup ("msgName" : Text) = some d.name := by
  simp only [classValues]
  rw [Bindings.lookup_put_of_ne (by decide)]
  split
  · rw [Bindings.lookup_put_of_ne (by decide), Bindings.lookup_put_self]
  · rw [Bindings.lookup_put_self]

theorem lookup_md5sum {sum : Text} (h : checksum.filter (!·.isEmpty) = some sum) :
    (classValues d checksum).lookup ("md5sum" : Text) = some sum := by
  simp only [classValues, h]
  rw [Bindings.lookup_put_of_ne (by decide), Bindings.lookup_put_self]

end Values

theorem member_filled (v : Bindings) (f : Declaration) :
    substitute (v.extend (fieldValues f.type.name f)) (Text.unrows (Fragment.rows .enumMember)) =
      Filled.memberText f := by
  simp (disch := decide) only [Fragment.rows, Text.unrows_singleton, Fragment.slot,
    Placeholder.substitute_written_append, lookup_fieldName, Option.getD_some,
    Placeholder.substitute_plain]
  rfl

theorem field_filled (v : Bindings) (f : Declaration) :
    substitute (v.extend (fieldValues f.type.name f)) (Text.unrows (fieldFragment f).rows) =
      Filled.fieldText f := by
  unfold fieldFragment Filled.fieldText
  split_ifs
  all_goals
    simp (disch := decide) only [Fragment.rows, Text.unrows_singleton, Fragment.slot,
      List.append_assoc, Placeholder.substitute_plain_append,
      Placeholder.substitute_written_append, lookup_fieldType, lookup_fieldName,
      lookup_arraySize, Option.getD_some, Placeholder.substitute_plain]
  all_goals rfl

theorem accessor_filled {v : Bindings} {cls : Text} (hv : v.lookup ("className" : Text) = some cls)
    (f : Declaration) :
    substitute (v.extend (accessorValues f)) (Text.unrows (accessorFragment f).rows) =
      Text.unrows (Filled.accessorRows cls f) := by
  -- the values of an accessor are put over those of the class and do not hide its name
  have hcls : (v.extend (accessorValues f)).lookup ("className" : Text) = some cls := by
    rw [extend_accessorValues, lookup_extend_fieldValues (by decide) (by decide) (by decide),
      Bindings.lookup_put_of_ne (by decide), hv]
  have htype : (v.extend (accessorValues f)).lookup ("fieldType" : Text) =
      some (parameterType f) := by
    rw [extend_accessorValues, lookup_fieldType]
  have hname : (v.extend (accessorValues f)).lookup ("fieldName" : Text) = some f.name := by
    rw [extend_accessorValues, lookup_fieldName]
  have hsize : (v.extend (accessorValues f)).lookup ("arraySize" : Text) =
      some (Text.ofNat f.type.arity.size) := by
    rw [extend_accessorValues, lookup_arraySize]
  rw [Placeholder.substitute_unrows]
  congr 1
  unfold accessorFragment Filled.accessorRows
  split_ifs
  all_goals
    simp (disch := decide) only [Fragment.rows, List.map_cons, List.map_nil, Fragment.slot,
      List.append_assoc, Placeholder.substitute_plain_append,
      Placeholder.substitute_written_append, hcls, lookup_methodName, htype, hname, hsize,
      Option.getD_some, Placeholder.substitute_plain, Filled.sizeCheck, Filled.assignment,
      List.cons_append, List.nil_append]

/-! ## Text without dollar signs -/

/-- No dollar sign comes in with a declaration. -/
structure PlainDeclaration (f : Declaration) : Prop where
  name : '$' ∉ f.name
  comment : '$' ∉ f.comment
  typeName : '$' ∉ f.type.name
  importPath : ∀ path, f.type.importPath = some path → '$' ∉ path

/-- No dollar sign comes in from outside. -/
structure DollarFree (style : Style) (d : Definition) (checksum : Option Text) : Prop where
  javaPackage : '$' ∉ style.javaPackage
  runtime : '$' ∉ style.runtime
  name : '$' ∉ d.name
  comment : '$' ∉ d.comment
  fields : ∀ f ∈ d.fields, PlainDeclaration f
  members : ∀ enum ∈ d.enums, ∀ f ∈ enum, PlainDeclaration f
  checksum : ∀ sum, checksum = some sum → '$' ∉ sum

/-- No dollar sign stands in any of the pieces. -/
def Plain (ps : List Piece) : Prop := ∀ p ∈ ps, '$' ∉ p.2

theorem plain_append {ps qs : List Piece} : Plain (ps ++ qs) ↔ Plain ps ∧ Plain qs :=
  List.forall_mem_append

theorem plain_cons {p : Piece} {ps : List Piece} : Plain (p :: ps) ↔ '$' ∉ p.2 ∧ Plain ps :=
  List.forall_mem_cons

theorem plain_nil : Plain [] := by simp [Plain]

theorem plain_flatMap {α : Type} {xs : List α} {g : α → List Piece} :
    Plain (xs.flatMap g) ↔ ∀ x ∈ xs, Plain (g x) := by
  simp only [Plain, List.mem_flatMap]
  exact ⟨fun h x hx p hp => h p ⟨x, hx, hp⟩, fun h p ⟨x, hx, hp⟩ => h x hx p hp⟩

theorem plain_map {n : ℕ} {rows : List Text} :
    Plain (rows.map (Prod.mk n)) ↔ ∀ r ∈ rows, '$' ∉ r := by
  simp [Plain]

theorem not_mem_shift {c : Char} {t : Text} (hfeed : c ≠ '\n') (hblank : c ≠ ' ') (h : c ∉ t)
    (n : ℕ) : c ∉ shift n t := by
  intro hc
  rcases Text.mem_unrows hc with hc | ⟨r, hr, hc⟩
  · exact hfeed hc
  · obtain ⟨q, hq, rfl⟩ := List.mem_map.1 hr
    unfold CodeWriter.indent at hc
    split at hc
    · simp at hc
    · have hunit : c ∉ ("    " : Text) := by simp [hblank]
      rcases List.mem_append.1 hc with hc | hc
      · exact CodeWriter.not_mem_flatten_replicate hunit n hc
      · exact h (Text.mem_of_mem_pieces hq hc).1

/-- Plain pieces are left alone. -/
theorem map_plain (v : Bindings) {ps : List Piece} (h : Plain ps) :
    ps.map (fun p => substitute v (shown p)) = ps.map shown :=
  List.map_congr_left fun p hp =>
    Placeholder.substitute_plain (not_mem_shift (by decide) (by decide) (h p hp) p.1)

theorem not_mem_escapeEnd {x : Char} {t : Text} (hx : x ∉ ("*&#47;" : Text)) (h : x ∉ t) :
    x ∉ escapeEnd t := by
  fun_induction escapeEnd t with
  | case1 => simp
  | case2 cs ih =>
    simp only [List.mem_cons, not_or] at h
    rw [List.mem_append, not_or]
    exact ⟨hx, ih h.2.2⟩
  | case3 c cs _ ih =>
    simp only [List.mem_cons, not_or] at h ⊢
    exact ⟨h.1, ih h.2⟩

theorem plain_docPieces {t : Text} (h : '$' ∉ t) (n : ℕ) : Plain (docPieces n t) := by
  have hrow : ∀ r ∈ javadocRows t, '$' ∉ Template.docRow r := by
    intro r hr
    obtain ⟨q, hq, rfl⟩ := List.mem_map.1 hr
    have hesc : '$' ∉ escapeEnd q :=
      not_mem_escapeEnd (by decide) fun hx => h (Text.mem_of_mem_pieces hq hx).1
    unfold Template.docRow
    split <;> simp [hesc]
  rw [docPieces, plain_map, Template.docRows]
  intro r hr
  simp only [List.mem_cons, List.mem_append, List.mem_map, List.not_mem_nil, or_false] at hr
  rcases hr with rfl | ⟨q, hq, rfl⟩ | rfl
  · decide
  · exact hrow q hq
  · decide

theorem plain_copies {indent separator tail : Text} {items : List Text} (hi : '$' ∉ indent)
    (hs : '$' ∉ separator) (ht : '$' ∉ tail) (h : ∀ x ∈ items, '$' ∉ x) :
    ∀ r ∈ Repetition.copies indent separator tail items, '$' ∉ r := by
  fun_induction Repetition.copies indent separator tail items with
  | case1 => simp
  | case2 item => simp [hi, ht, h item]
  | case3 item items _ ih =>
    rw [List.forall_mem_cons] at h ⊢
    exact ⟨by simp [hi, hs, h.1], ih h.2⟩

section DollarFree

variable {style : Style} {d : Definition} {checksum : Option Text}

theorem dollar_not_mem_className {path : Text} (h : '$' ∉ path) : '$' ∉ Naming.className path :=
  Naming.not_mem_className (fun hx => absurd hx h) (by decide) (by decide)

theorem DollarFree.className (h : DollarFree style d checksum) :
    '$' ∉ Naming.className d.name := dollar_not_mem_className h.name

theorem PlainDeclaration.accessorName {f : Declaration} (h : PlainDeclaration f) :
    '$' ∉ Naming.accessorName "with" f.name :=
  Naming.not_mem_accessorName (by decide) h.name (by decide)

theorem DollarFree.imports (h : DollarFree style d checksum) :
    ∀ path ∈ imports style.runtime d, '$' ∉ path := by
  intro path hpath
  rcases mem_imports hpath with (rfl | rfl) | hfixed | ⟨f, hf, himport⟩
  · simp [h.runtime]
  · simp [h.runtime]
  · exact Text.not_mem_of_all (by decide) hfixed
  · exact (h.fields f hf).importPath path himport

theorem plain_declaration {f : Declaration} (h : PlainDeclaration f) {text : Text}
    (ht : '$' ∉ text) (n : ℕ) : Plain (Filled.declarationPieces n text f) := by
  rw [Filled.declarationPieces, plain_append, plain_cons]
  refine ⟨?_, ht, plain_nil⟩
  split
  · exact plain_nil
  · exact plain_docPieces h.comment n

theorem not_mem_fieldText {f : Declaration} (h : PlainDeclaration f) :
    '$' ∉ Filled.fieldText f := by
  have hsize : '$' ∉ Text.ofNat f.type.arity.size := not_mem_ofNat (by decide) _
  unfold Filled.fieldText
  split_ifs <;> simp [h.name, h.typeName, hsize]

theorem not_mem_accessorRows {f : Declaration} (h : PlainDeclaration f) {cls : Text}
    (hcls : '$' ∉ cls) : '$' ∉ Text.unrows (Filled.accessorRows cls f) := by
  have hsize : '$' ∉ Text.ofNat f.type.arity.size := not_mem_ofNat (by decide) _
  have hparameter : '$' ∉ parameterType f := by
    unfold parameterType
    split <;> simp [h.typeName]
  have hrows : ∀ r ∈ Filled.accessorRows cls f, '$' ∉ r := by
    have haccessor := h.accessorName
    -- the name is generalized, else `simp` would spell out the literal inside it
    unfold Filled.accessorRows Filled.assignment Filled.sizeCheck
    generalize Naming.accessorName _ f.name = method at haccessor ⊢
    split_ifs <;> simp [h.name, haccessor, hparameter, hsize, hcls]
  intro hx
  rcases Text.mem_unrows hx with hx | ⟨r, hr, hx⟩
  · exact absurd hx (by decide)
  · exact hrows r hr hx

theorem plain_fieldPieces (h : DollarFree style d checksum) : Plain (Filled.fieldPieces d) := by
  have hhead : ∀ index, '$' ∉ enumHead index := not_mem_enumHead (by decide) (by decide)
  rw [Filled.fieldPieces, plain_append, plain_append, plain_flatMap, plain_flatMap]
  refine ⟨⟨fun enum henum => ?_, ?_⟩, fun f hf => ?_⟩
  · have hmem : enum.1 ∈ d.enums := List.fst_mem_of_mem_zipIdx henum
    rw [Filled.enumPieces, plain_append, plain_append, plain_flatMap]
    refine ⟨⟨by simp [plain_cons, plain_nil, hhead], fun f hf => ?_⟩, ?_⟩
    · have hplain := h.members enum.1 hmem f hf
      exact plain_declaration hplain (by unfold Filled.memberText; simp [hplain.name]) 2
    · exact plain_cons.2 ⟨by decide, plain_nil⟩
  · split
    · exact plain_nil
    · exact plain_cons.2 ⟨by simp, plain_nil⟩
  · exact plain_declaration (h.fields f hf) (not_mem_fieldText (h.fields f hf)) 1

theorem plain_expressions (h : DollarFree style d checksum) :
    (∀ x ∈ d.fields.map hashExpression, '$' ∉ x) ∧
      (∀ x ∈ d.fields.map equalsExpression, '$' ∉ x) ∧
      ∀ x ∈ d.fields.map textExpression, '$' ∉ x := by
  simp only [List.forall_mem_map]
  refine ⟨fun f hf => ?_, fun f hf => ?_, fun f hf => ?_⟩
  · unfold hashExpression
    split <;> simp [(h.fields f hf).name]
  · unfold equalsExpression
    split_ifs <;> simp [(h.fields f hf).name]
  · unfold textExpression literal
    simp [(h.fields f hf).name]

theorem plain_methodRows {top items bottom : List Text} {separator tail : Text}
    (htop : ∀ r ∈ top, '$' ∉ r) (hitems : ∀ x ∈ items, '$' ∉ x) (hbottom : ∀ r ∈ bottom, '$' ∉ r)
    (hs : '$' ∉ separator) (ht : '$' ∉ tail) :
    ∀ r ∈ Filled.methodRows top items bottom separator tail, '$' ∉ r := by
  rw [Filled.methodRows, List.forall_mem_append, List.forall_mem_append]
  exact ⟨⟨htop, plain_copies (by decide) hs ht hitems⟩, hbottom⟩

theorem plain_methodPieces (h : DollarFree style d checksum) :
    Plain (Filled.methodPieces (Naming.className d.name) d) := by
  obtain ⟨hhash, hequals, htext⟩ := plain_expressions h
  have hcls := h.className
  rw [Filled.methodPieces, plain_append, plain_flatMap]
  refine ⟨fun f hf => ?_, ?_⟩
  · exact plain_cons.2 ⟨by simp, plain_cons.2 ⟨not_mem_accessorRows (h.fields f hf) hcls, plain_nil⟩⟩
  · split
    · exact plain_nil
    · rw [Filled.atDepth, plain_map, List.forall_mem_append, List.forall_mem_append,
        List.forall_mem_cons, List.forall_mem_cons, List.forall_mem_cons]
      refine ⟨⟨⟨by simp, ?_⟩, by simp, ?_⟩, by simp, ?_⟩
      · exact plain_methodRows (by decide) hhash (by decide) (by decide) (by decide)
      · exact plain_methodRows (by simp [hcls]) hequals (by decide) (by decide) (by decide)
      · exact plain_methodRows (by decide) htext (by decide) (by decide) (by decide)

theorem plain_after (h : DollarFree style d checksum) : Plain (Filled.after d) := by
  have hcls := h.className
  simp only [Filled.after, plain_append]
  refine ⟨⟨⟨?_, plain_fieldPieces h⟩, plain_methodPieces h⟩, plain_cons.2 ⟨by decide, plain_nil⟩⟩
  rw [Filled.atDepth, plain_map, Filled.copyRows]
  simp [hcls]

theorem not_mem_literal {t : Text} (h : '$' ∉ t) : '$' ∉ literal t := by
  unfold literal; simp [h]

theorem sum?_eq_some {sum : Text} (h : Filled.sum? style checksum = some sum) :
    checksum.filter (!·.isEmpty) = some sum := by
  unfold Filled.sum? at h
  split at h
  · exact h
  · cases h

theorem DollarFree.fieldNames (h : DollarFree style d checksum) :
    '$' ∉ Text.join ", " (d.fields.map fun f => literal f.name) := by
  intro hx
  rcases Text.mem_join hx with hx | ⟨x, hmem, hx⟩
  · exact absurd hx (by decide)
  · obtain ⟨f, hf, rfl⟩ := List.mem_map.1 hmem
    exact not_mem_literal (h.fields f hf).name hx

theorem plain_annotationItems (h : DollarFree style d checksum) :
    ∀ x ∈ Filled.annotationItems (Naming.className d.name) d (Filled.sum? style checksum),
      '$' ∉ x := by
  have hcls := h.className
  have hnames := h.fieldNames
  unfold Filled.annotationItems
  generalize Text.join _ _ = names at hnames ⊢
  simp only [List.cons_append, List.forall_mem_cons, List.forall_mem_append]
  refine ⟨by simp [hcls], ?_, ?_⟩
  · split
    · simp [hnames]
    · simp
  · intro x hx
    obtain ⟨sum, hsum, rfl⟩ := Option.map_eq_some_iff.1 (Option.mem_toList.1 hx)
    have hplain := h.checksum sum (Option.filter_eq_some_iff.1 (sum?_eq_some hsum)).1
    simp [not_mem_literal hplain]

theorem plain_before (h : DollarFree style d checksum) :
    Plain (Filled.before style d checksum) := by
  have hcls := h.className
  have hcomment : '$' ∉ classComment d := by
    unfold classComment
    split <;> simp [h.name, h.comment]
  simp only [Filled.before, plain_append]
  refine ⟨⟨⟨⟨⟨?_, ?_⟩, plain_append.2 ⟨?_, ?_⟩⟩, plain_docPieces hcomment 0⟩, ?_⟩, ?_⟩
  · rw [Filled.atDepth, plain_map, Filled.headerRows]
    simp [h.name]
  · unfold packagePieces
    simp [plain_cons, plain_nil, h.javaPackage]
  · intro p hp
    obtain ⟨path, hpath, rfl⟩ := List.mem_map.1 hp
    have hplain := h.imports path hpath
    simp only
    unfold Template.importRow
    simp [hplain]
  · exact plain_cons.2 ⟨by simp, plain_nil⟩
  · rw [Filled.atDepth, plain_map, Filled.annotationRows, List.forall_mem_cons]
    exact ⟨by decide, plain_copies (by decide) (by decide) (by decide) (plain_annotationItems h)⟩
  · unfold Filled.headRow
    simp [plain_cons, plain_nil, hcls]

end DollarFree

/-! ## Filling over the complete text -/

theorem substitute_slot {v : Bindings} {key value : Text} (before after : Text)
    (hb : '$' ∉ before) (ha : '$' ∉ after) (hk : Placeholder.isKey key = true) (hv : v.lookup key = some value) :
    substitute v (before ++ Placeholder.written key ++ after) = before ++ value ++ after := by
  rw [List.append_assoc, Placeholder.substitute_plain_append hb,
    Placeholder.substitute_written_append hk, hv, Option.getD_some,
    Placeholder.substitute_plain ha, List.append_assoc]

/-- A row may be filled before or after it is indented, unless its value has line feeds. -/
theorem substitute_shown {v : Bindings} {r q : Text} (n : ℕ) (h : substitute v r = q)
    (hr : '\n' ∉ r) (hne : r ≠ []) (hq : '\n' ∉ q) (hne' : q ≠ []) :
    substitute v (shown (n, r)) = shown (n, q) := by
  unfold shown
  simp only
  rw [CodeWriter.shift_eq_pad hr hne, CodeWriter.shift_eq_pad hq hne',
    CodeWriter.substitute_pad_append, h]

theorem map_copies {g : Text → Text} (indent separator tail : Text) (items : List Text)
    (hs : ∀ x, g (indent ++ x ++ separator) = indent ++ g x ++ separator)
    (ht : ∀ x, g (indent ++ x ++ tail) = indent ++ g x ++ tail) :
    (Repetition.copies indent separator tail items).map g =
      Repetition.copies indent separator tail (items.map g) := by
  fun_induction Repetition.copies indent separator tail items with
  | case1 => rfl
  | case2 item => simp [Repetition.copies, ← ht]
  | case3 item items hne ih =>
    obtain ⟨x, xs, rfl⟩ := List.exists_cons_of_ne_nil (fun h => hne h)
    rw [List.map_cons, hs, ih]
    rfl

/-- Rows without the marker stay, and the one with it gives way to its copies. -/
theorem expandedPieces_eq {f : Fragment} (n : ℕ) (items : List Text) (separator : Text)
    (top bottom : List Text) (indent tail : Text)
    (hrows : f.rows = top ++ (indent ++ Repetition.defaultMarker ++ tail) :: bottom)
    (htop : ∀ r ∈ top, Text.cut? Repetition.defaultMarker r = none)
    (hbottom : ∀ r ∈ bottom, Text.cut? Repetition.defaultMarker r = none)
    (hcut : Text.cut? Repetition.defaultMarker (indent ++ Repetition.defaultMarker ++ tail) =
      some (indent, tail))
    (hindent : Text.indentation (indent ++ Repetition.defaultMarker ++ tail) = indent) :
    expandedPieces n f items separator =
      Filled.atDepth n (top ++ Repetition.copies indent separator tail items ++ bottom) := by
  have hplain : ∀ rs : List Text, (∀ r ∈ rs, Text.cut? Repetition.defaultMarker r = none) →
      rs.flatMap (Repetition.expandRow Repetition.defaultMarker items separator) = rs := by
    intro rs hrs
    induction rs with
    | nil => rfl
    | cons r rs ih =>
      rw [List.forall_mem_cons] at hrs
      rw [List.flatMap_cons, ih hrs.2, Repetition.expandRow, hrs.1]
      rfl
  have hmarked : Repetition.expandRow Repetition.defaultMarker items separator
      (indent ++ Repetition.defaultMarker ++ tail) =
        Repetition.copies indent separator tail items := by
    rw [Repetition.expandRow, hcut, hindent]
  rw [expandedPieces, hrows, List.flatMap_append, List.flatMap_cons, hplain top htop,
    hplain bottom hbottom, hmarked, List.append_assoc]
  rfl

section Sections

variable {style : Style} {d : Definition} {checksum : Option Text}

theorem map_substitute_zero (v : Bindings) (rows : List Text) :
    (rows.map (Prod.mk 0)).map (fun p => substitute v (shown p)) = rows.map (substitute v) := by
  simp [shown]

theorem map_shown_zero (rows : List Text) : (Filled.atDepth 0 rows).map shown = rows := by
  simp [Filled.atDepth, shown, Function.comp_def]

theorem map_header (d : Definition) (checksum : Option Text) :
    (fragmentPieces 0 .header).map (fun p => substitute (classValues d checksum) (shown p)) =
      (Filled.atDepth 0 (Filled.headerRows d.name)).map shown := by
  rw [fragmentPieces, map_substitute_zero, map_shown_zero]
  have hrow := substitute_slot " * Generated by msgmonster from the ROS message definition " "."
    (by decide) (by decide) (by decide) (lookup_msgName d checksum)
  simp (disch := decide) only [Fragment.rows, List.map_cons, List.map_nil, Fragment.slot, hrow,
    Placeholder.substitute_plain]
  rfl

theorem map_metadataItems (h : DollarFree style d checksum) :
    (metadataItems d (showsSum style checksum)).map (substitute (classValues d checksum)) =
      Filled.annotationItems (Naming.className d.name) d (Filled.sum? style checksum) := by
  have hname := substitute_slot "name = " ".NAME" (by decide) (by decide) (by decide)
    (lookup_className d checksum)
  have hnames := h.fieldNames
  unfold metadataItems Filled.annotationItems
  generalize Text.join _ _ = names at hnames ⊢
  rw [List.map_append, List.map_cons, hname]
  congr 2
  · split
    · rw [List.map_singleton, Placeholder.substitute_plain (by simp [hnames])]
    · rfl
  · unfold showsSum Filled.sum?
    cases hsum : checksum.filter (!·.isEmpty) with
    | none => cases style.showsChecksum <;> rfl
    | some sum =>
      have hslot := substitute_slot "md5sum = \"" "\"" (by decide) (by decide) (by decide)
        (lookup_md5sum d checksum hsum)
      cases style.showsChecksum with
      | false => rfl
      | true => exact congrArg (fun t => [t]) hslot

theorem map_metadata (h : DollarFree style d checksum) :
    (expandedPieces 0 .metadata (metadataItems d (showsSum style checksum)) ",").map
        (fun p => substitute (classValues d checksum) (shown p)) =
      (Filled.atDepth 0 (Filled.annotationRows (Naming.className d.name) d
        (Filled.sum? style checksum))).map shown := by
  -- no placeholder of an item goes on into what the fragment has around it
  have hend : ∀ x indent tail : Text, '$' ∉ indent → '$' ∉ tail →
      tail.head?.all Placeholder.isBoundary = true →
      substitute (classValues d checksum) (indent ++ x ++ tail) =
        indent ++ substitute (classValues d checksum) x ++ tail := by
    intro x indent tail hi ht hb
    rw [Placeholder.substitute_append hb, Placeholder.substitute_plain_append hi,
      Placeholder.substitute_plain ht]
  have hcopies := map_copies (g := substitute (classValues d checksum)) "        " "," ")"
    (metadataItems d (showsSum style checksum))
    (fun x => hend x _ _ (by decide) (by decide) (by decide))
    (fun x => hend x _ _ (by decide) (by decide) (by decide))
  rw [expandedPieces_eq 0 _ "," ["@MessageMetadata("] [] "        " ")" rfl (by decide)
    (by decide) (by decide) (by decide), Filled.atDepth, map_substitute_zero, map_shown_zero, List.append_nil,
    List.map_append, hcopies, map_metadataItems h]
  rw [List.map_singleton, Placeholder.substitute_plain (by decide)]
  rfl

theorem substitute_shown_plain (v : Bindings) (n : ℕ) {t : Text} (h : '$' ∉ t) :
    substitute v (shown (n, t)) = shown (n, t) :=
  Placeholder.substitute_plain (not_mem_shift (by decide) (by decide) h n)

/-- A row of the body around the name of the class. -/
theorem substitute_className_row (d : Definition) (checksum : Option Text) (before after : Text)
    (hb : '$' ∉ before) (ha : '$' ∉ after) (hb' : '\n' ∉ before) (ha' : '\n' ∉ after)
    (hne : before ≠ []) :
    substitute (classValues d checksum)
        (shown (1, before ++ Placeholder.written "className" ++ after)) =
      shown (1, before ++ Naming.className d.name ++ after) := by
  have hcls : '\n' ∉ Naming.className d.name := Naming.feed_not_mem_className d.name
  refine substitute_shown 1 (substitute_slot before after hb ha (by decide)
    (lookup_className d checksum)) ?_ (by simp [hne]) ?_ (by simp [hne])
  · have hslot : '\n' ∉ Placeholder.written "className" := by decide
    simp only [List.mem_append, not_or]
    exact ⟨⟨hb', hslot⟩, ha'⟩
  · simp [hb', hcls, ha']

theorem map_fieldsHeader (d : Definition) (checksum : Option Text) :
    (fragmentPieces 1 .fieldsHeader).map
        (fun p => substitute (classValues d checksum) (shown p)) =
      ("    " ++ Filled.nameRow d.name)
        :: (Filled.atDepth 1 (Filled.copyRows (Naming.className d.name))).map shown := by
  have hname : substitute (classValues d checksum) (shown (1, "static final String NAME = \""
      ++ Placeholder.written "msgName" ++ "\";")) = "    " ++ Filled.nameRow d.name := by
    unfold shown
    simp only
    rw [CodeWriter.shift_eq_pad (by decide) (by decide), CodeWriter.substitute_pad_append,
      substitute_slot _ _ (by decide) (by decide) (by decide) (lookup_msgName d checksum)]
    rfl
  have hcopy := substitute_className_row d checksum "private " " copy() \x7b" (by decide)
    (by decide) (by decide) (by decide) (by decide)
  have hreturn := substitute_className_row d checksum "        return (" ") super.clone();"
    (by decide) (by decide) (by decide) (by decide) (by decide)
  unfold fragmentPieces Filled.atDepth Filled.copyRows
  simp (disch := decide) only [Fragment.rows, Fragment.slot, List.map_cons, List.map_nil, hname,
    hcopy, hreturn, substitute_shown_plain]

theorem map_equals (h : DollarFree style d checksum) :
    (expandedPieces 1 .equals (d.fields.map equalsExpression) " &&").map
        (fun p => substitute (classValues d checksum) (shown p)) =
      (Filled.atDepth 1 (Filled.equalsRows (Naming.className d.name) d)).map shown := by
  have hitems : Plain (Filled.atDepth 1 (Repetition.copies "            " " &&" ";"
      (d.fields.map equalsExpression))) :=
    plain_map.2 (plain_copies (by decide) (by decide) (by decide) (plain_expressions h).2.1)
  have hcast := substitute_className_row d checksum "    if (obj instanceof " " other)" (by decide)
    (by decide) (by decide) (by decide) (by decide)
  have hcopies := map_plain (classValues d checksum) hitems
  rw [expandedPieces_eq 1 _ " &&" ["@Override", "public boolean equals(Object obj) \x7b",
      "    if (obj instanceof " ++ Placeholder.written "className" ++ " other)", "        return"]
    ["    return false;", "\x7d"] "            " ";" rfl (by decide) (by decide) (by decide)
    (by decide)]
  unfold Filled.equalsRows Filled.methodRows
  unfold Filled.atDepth at hcopies ⊢
  simp (disch := decide) only [List.map_append, hcopies, List.map_cons, List.map_nil, hcast,
    substitute_shown_plain]

theorem map_identity (h : DollarFree style d checksum) :
    (identityPieces (d.fields.map hashExpression) .hashCode ","
        ++ identityPieces (d.fields.map equalsExpression) .equals " &&"
        ++ identityPieces (d.fields.map textExpression) .toText ",").map
          (fun p => substitute (classValues d checksum) (shown p)) =
      (if d.fields.isEmpty then [] else Filled.atDepth 1 ([] :: Filled.hashRows d
        ++ [] :: Filled.equalsRows (Naming.className d.name) d ++ [] :: Filled.textRows d)).map
          shown := by
  by_cases hne : d.fields = []
  · simp [identityPieces, hne]
  · obtain ⟨hhash, hequals, htext⟩ := plain_expressions h
    have hhashPieces : expandedPieces 1 .hashCode (d.fields.map hashExpression) "," =
        Filled.atDepth 1 (Filled.hashRows d) :=
      expandedPieces_eq 1 _ "," ["@Override", "public int hashCode() \x7b",
        "    return Objects.hash("] ["\x7d"] "            " ");" rfl (by decide) (by decide)
        (by decide) (by decide)
    have htextPieces : expandedPieces 1 .toText (d.fields.map textExpression) "," =
        Filled.atDepth 1 (Filled.textRows d) :=
      expandedPieces_eq 1 _ "," ["@Override", "public String toString() \x7b",
        "    return XJson.asString("] ["\x7d"] "            " ");" rfl (by decide) (by decide)
        (by decide) (by decide)
    have hhashPlain : Plain (Filled.atDepth 1 (Filled.hashRows d)) :=
      plain_map.2 (plain_methodRows (by decide) hhash (by decide) (by decide) (by decide))
    have htextPlain : Plain (Filled.atDepth 1 (Filled.textRows d)) :=
      plain_map.2 (plain_methodRows (by decide) htext (by decide) (by decide) (by decide))
    have hblank : ∀ ps : List Piece, ((1, []) :: ps).map
        (fun p => substitute (classValues d checksum) (shown p)) =
        [] :: ps.map fun p => substitute (classValues d checksum) (shown p) := by
      intro ps
      rw [List.map_cons, substitute_shown_plain _ _ (by simp), shown, CodeWriter.shift_nil]
    have hequalsMap := map_equals h
    simp only [identityPieces, List.isEmpty_map, List.isEmpty_iff, hne, if_false,
      List.map_append, hblank, hhashPieces, htextPieces, map_plain _ hhashPlain,
      map_plain _ htextPlain, hequalsMap]
    simp [Filled.atDepth, shown]

theorem fieldPieces_eq (v : Bindings) (d : Definition) :
    fieldPieces v d = Filled.fieldPieces d := by
  have hmember : declarationPieces v 2 .enumMember =
      fun f => Filled.declarationPieces 2 (Filled.memberText f) f := by
    funext f
    rw [declarationPieces, Filled.declarationPieces, member_filled]
  have henum : enumPieces v = Filled.enumPieces := by
    funext enum
    rw [enumPieces, Filled.enumPieces, hmember]
  have hfield : (fun f => declarationPieces v 1 (fieldFragment f) f) =
      fun f => Filled.declarationPieces 1 (Filled.fieldText f) f := by
    funext f
    rw [declarationPieces, Filled.declarationPieces, field_filled]
  rw [fieldPieces, Filled.fieldPieces, henum, hfield]

theorem accessorPieces_eq (d : Definition) (checksum : Option Text) :
    accessorPieces (classValues d checksum) =
      fun f => [(1, []), (1, Text.unrows (Filled.accessorRows (Naming.className d.name) f))] := by
  funext f
  rw [accessorPieces, accessor_filled (lookup_className d checksum)]

/-- **Every value ends up where filling in place would have put it.** -/
theorem map_classPieces (h : DollarFree style d checksum) :
    (classPieces style d checksum).map
        (fun p => substitute (classValues d checksum) (shown p)) =
      (Filled.before style d checksum).map shown
        ++ ("    " ++ Filled.nameRow d.name) :: (Filled.after d).map shown := by
  have hbefore := plain_before h
  have hafter := plain_after h
  simp only [Filled.before, Filled.after, Filled.methodPieces, plain_append] at hbefore hafter
  obtain ⟨⟨⟨⟨⟨-, hpackage⟩, himports⟩, hdoc⟩, -⟩, -⟩ := hbefore
  obtain ⟨⟨⟨-, hfields⟩, haccessors, -⟩, hclosing⟩ := hafter
  have hhead : substitute (classValues d checksum) (shown (0, classHead)) =
      shown (0, Filled.headRow (Naming.className d.name)) := by
    simp only [shown, CodeWriter.shift_zero]
    exact substitute_slot _ _ (by decide) (by decide) (by decide) (lookup_className d checksum)
  have hblank := substitute_shown_plain (classValues d checksum) 1 (t := []) (by simp)
  -- inside the body nothing is left for the end but the name of the class in `equals`
  have hbody : bodyPieces (classValues d checksum) d =
      Filled.fieldPieces d ++ (d.fields.flatMap fun f =>
        [(1, []), (1, Text.unrows (Filled.accessorRows (Naming.className d.name) f))]) ++
      (identityPieces (d.fields.map hashExpression) .hashCode ","
        ++ identityPieces (d.fields.map equalsExpression) .equals " &&"
        ++ identityPieces (d.fields.map textExpression) .toText ",") := by
    rw [bodyPieces, fieldPieces_eq, accessorPieces_eq]
    simp only [List.append_assoc]
  rw [classPieces, hbody]
  simp only [List.map_append, List.map_cons, map_header, map_plain _ hpackage,
    map_plain _ himports, map_plain _ hdoc, map_metadata h, hhead, hblank, map_fieldsHeader,
    map_plain _ hfields, map_plain _ haccessors, map_plain _ hclosing]
  have hidentity := map_identity h
  simp only [List.map_append] at hidentity
  rw [hidentity]
  simp only [Filled.before, Filled.after, Filled.methodPieces, List.map_append, List.map_cons,
    List.map_nil, List.append_assoc, List.cons_append, List.nil_append]

theorem render_eq_textAround (hp : style.IsPackaged) (h : DollarFree style d checksum) :
    render style d checksum =
      .ok (Filled.textAround style d checksum ("    " ++ Filled.nameRow d.name)) := by
  rw [render_packaged hp, classText, map_classPieces h, Filled.textAround]

theorem not_mem_textAround (h : DollarFree style d checksum) :
    '$' ∉ Filled.textAround style d checksum ("    " ++ Filled.nameRow d.name) := by
  have hname : '$' ∉ "    " ++ Filled.nameRow d.name := by
    unfold Filled.nameRow
    simp [h.name]
  have hshown : ∀ ps, Plain ps → ∀ t ∈ ps.map shown, '$' ∉ t := by
    intro ps hps t ht
    obtain ⟨p, hp, rfl⟩ := List.mem_map.1 ht
    exact not_mem_shift (by decide) (by decide) (hps p hp) p.1
  rw [Filled.textAround, List.mem_append, not_or]
  refine ⟨fun hx => ?_, by decide⟩
  rcases Text.mem_unrows hx with hx | ⟨t, ht, hx⟩
  · exact absurd hx (by decide)
  · rcases List.mem_append.1 ht with ht | ht
    · exact hshown _ (plain_before h) t ht hx
    · rcases List.mem_cons.1 ht with rfl | ht
      · exact hname hx
      · exact hshown _ (plain_after h) t ht hx

/-! ## The rows of the name -/

theorem shift_append_newline (n : ℕ) (t u : Text) :
    shift n (t ++ '\n' :: u) = shift n t ++ '\n' :: shift n u := by
  rw [shift, Text.rows_append_newline, List.map_append,
    Text.unrows_append (by simp) (by simp)]
  rfl

/-- A text with a character other than line feeds gets longer by indenting it. -/
theorem length_lt_shift {t : Text} {x : Char} (hx : x ∈ t) (hne : x ≠ '\n') :
    t.length < (shift 1 t).length := by
  have hlt : (Text.unrows (Text.rows t)).length < (shift 1 t).length := by
    refine Text.length_unrows_lt (fun r _ => ?_) ?_
    · unfold CodeWriter.indent
      split
      · simp_all
      · simp; omega
    · rw [← Text.unrows_rows t] at hx
      rcases Text.mem_unrows hx with hx | ⟨r, hr, hx⟩
      · exact absurd hx hne
      · refine ⟨r, hr, ?_⟩
        rw [CodeWriter.indent, if_neg (by simpa using List.ne_nil_of_mem hx)]
        simp; omega
  rwa [Text.unrows_rows] at hlt

/-- Only the first row of a name stands at the depth of the constant that holds it. -/
theorem shown_nameRow_iff (name : Text) :
    "    " ++ Filled.nameRow name = shown (1, Filled.nameRow name) ↔ '\n' ∉ name := by
  constructor
  · intro heq hfeed
    obtain ⟨first, rest, rfl, hfirst⟩ := List.eq_append_cons_of_mem hfeed
    set opening : Text := "static final String NAME = \"" ++ first with hopening
    have hrow : Filled.nameRow (first ++ '\n' :: rest) = opening ++ '\n' :: (rest ++ "\";") := by
      unfold Filled.nameRow
      simp [hopening]
    have hshift : shift 1 opening = "    " ++ opening :=
      CodeWriter.shift_eq_pad (by simp [hopening, hfirst]) (by simp [hopening]) 1
    -- the rows after the first one would have to stand as they are, though they are indented
    have hrest : rest ++ "\";" = shift 1 (rest ++ "\";") := by
      rw [shown, hrow, shift_append_newline, hshift, ← List.append_assoc,
        List.append_cancel_left_eq] at heq
      exact (List.cons.inj heq).2
    have hlt := length_lt_shift (t := rest ++ "\";") (x := ';') (by simp) (by decide)
    rw [← hrest] at hlt
    exact lt_irrefl _ hlt
  · intro hfeed
    have hrow : '\n' ∉ Filled.nameRow name := by
      unfold Filled.nameRow
      simp [hfeed]
    exact (CodeWriter.shift_eq_pad hrow (by unfold Filled.nameRow; simp) 1).symm

theorem render_eq_text_iff (hp : style.IsPackaged) (h : DollarFree style d checksum) :
    render style d checksum = .ok (Filled.text style d checksum) ↔ '\n' ∉ d.name := by
  have hbefore : (Filled.before style d checksum).map shown ≠ [] := by
    simp [Filled.before, Filled.atDepth, Filled.headerRows]
  have hafter : (Filled.after d).map shown ≠ [] := by
    simp [Filled.after]
  rw [render_eq_textAround hp h, Except.ok.injEq, Filled.text, Filled.textAround,
    Filled.textAround, List.append_cancel_right_eq, Text.unrows_around_inj hbefore hafter,
    shown_nameRow_iff]

end Sections

/-- **Putting the values in at the end is the same as filling every section in place.** Where
no dollar sign comes in from outside, every class has a text, no dollar sign is left in it, and
it is the class filled in place, with the name of the message as it is in the constant that
holds it. In place this constant would be indented as a whole; so the two texts are equal
exactly if the name has no line feed. -/
theorem render_filled_in_place (javaPackage runtime : Text) (dialect : Dialect) (files : FileTree)
    (d : Definition) (checksum : Option Text)
    (h : DollarFree (Style.packaged javaPackage runtime dialect files) d checksum) :
    let style := Style.packaged javaPackage runtime dialect files
    let text := Filled.textAround style d checksum ("    " ++ Filled.nameRow d.name)
    render style d checksum = .ok text ∧ '$' ∉ text ∧
      (render style d checksum = .ok (Filled.text style d checksum) ↔ '\n' ∉ d.name) := by
  intro style text
  have hp : style.IsPackaged := ⟨files, rfl⟩
  exact ⟨render_eq_textAround hp h, not_mem_textAround h, render_eq_text_iff hp h⟩

theorem render_filled_in_place_pose :
    let style := Style.packaged "org.example" "id.jrosmessages" .ros1 ⟨[], []⟩
    let d : Definition :=
      { name := "geometry_msgs/Pose"
        comment := "Where it is"
        fields := [⟨"its_place", "float64[3]", ⟨.primitive, "double", none, .array 3⟩, [], "*/"⟩]
        enums := [[⟨"A", "int8", ⟨.primitive, "byte", none, .single⟩, "0", []⟩]] }
    DollarFree style d (some "5a") ∧
      render style d (some "5a") = .ok (Filled.text style d (some "5a")) := by
  intro style d
  have hfree : DollarFree style d (some "5a") := by
    refine ⟨by decide, by decide, by decide, by decide, ?_, ?_, ?_⟩
    · intro f hf
      obtain rfl := List.mem_singleton.1 hf
      exact ⟨by decide, by decide, by decide, by simp⟩
    · intro enum henum f hf
      obtain rfl := List.mem_singleton.1 henum
      obtain rfl := List.mem_singleton.1 hf
      exact ⟨by decide, by decide, by decide, by simp⟩
    · rintro sum hsum
      obtain rfl := Option.some.inj hsum
      decide
  exact ⟨hfree, (render_filled_in_place _ _ _ _ d _ hfree).2.2.2 (by decide)⟩

/-- A name in two rows is not indented as a whole. -/
theorem render_name_in_two_rows :
    let style := Style.packaged "org.example" "id.jrosmessages" .ros1 ⟨[], []⟩
    let d : Definition := { name := "p/A\nB" }
    Definition.parse [] "p/A\nB" "id.jrosmessages" = .ok d ∧ DollarFree style d none ∧
      render style d none ≠ .ok (Filled.text style d none) := by
  intro style d
  have hfree : DollarFree style d none :=
    ⟨by decide, by decide, by decide, by decide, by simp [d], by simp [d], by simp⟩
  refine ⟨by decide, hfree, fun h => ?_⟩
  exact absurd ((render_eq_text_iff ⟨_, rfl⟩ hfree).1 h) (by decide)

end RosBindings.JavaClass

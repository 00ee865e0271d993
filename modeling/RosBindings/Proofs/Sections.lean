import RosBindings.Proofs.Comments
import RosBindings.Proofs.FieldTypes
import RosBindings.Proofs.Grouping
import RosBindings.Proofs.Lines

/-!
# Sections enumerate the fields

Six sections of a class go over the fields: the annotation, the declarations, the accessors and
the three methods that name every field. They are written one by one, from fragments of their
own. Here a class is read back from its rows, and the sections are compared with the fields.

* `declaresField`, `opensMethod` and `methods` read the body of a class.
* `Listing` says what each section has to say about the fields.
* `Shows`: what is read from part of a body; parts that follow each other are read one by one.
* `sections_enumerate_fields`: every section goes over all fields, in order.
-/

namespace RosBindings.JavaClass

open CodeWriter (indent shown)
open Naming (className)

/-! ## Reading a body -/

/-- Whether a row starts a public member of a class. -/
def isPublic (row : Text) : Bool := ("    public " : Text).isPrefixOf row

/-- Whether a row declares a field. -/
def declaresField (row : Text) : Bool := isPublic row && row.getLast? == some ';'

/-- Whether a row opens a public method. -/
def opensMethod (row : Text) : Bool :=
  isPublic row && row.contains '(' && row.getLast? == some '\x7b'

/-- The row that closes a method. -/
def methodEnd : Text := "    \x7d"

/-- The public methods, each without the row that closes it. -/
def methods : List Text → List (List Text)
  | [] => []
  | row :: rows =>
    if opensMethod row then (row :: rows.takeWhile (· ≠ methodEnd)) :: methods rows
    else methods rows

/-! ## What the sections list -/

/-- Items in rows of their own, with separators between them. -/
def itemRows (indent separator tail : Text) (items : List Text) : List Text :=
  (items.dropLast.map fun item => indent ++ item ++ separator)
    ++ items.getLast?.toList.map fun item => indent ++ item ++ tail

namespace Listing

/-- The items of the annotation: several fields are listed by their quoted names. -/
def metadata (cls : Text) (fields : List Declaration) (sum : Option Text) : List Text :=
  let names := fields.map fun f => ['"'] ++ f.name ++ ['"']
  ("name = " ++ cls ++ ".NAME")
    :: (if 2 ≤ fields.length then ["fields = \x7b " ++ Text.join ", " names ++ " \x7d"] else [])
    ++ sum.toList.map fun sum => ("md5sum = \"" : Text) ++ sum ++ ['"']

/-- The declaration of a field. An array of no fixed size starts empty, as one of size zero. -/
def declaration (f : Declaration) : Text :=
  match f.type.arity with
  | .array size =>
    "    public " ++ f.type.name ++ "[] " ++ f.name ++ " = new " ++ f.type.name
      ++ "[" ++ Text.ofNat size ++ "];"
  | .single =>
    match f.type.kind with
    | .primitive => "    public " ++ f.type.name ++ " " ++ f.name ++ ";"
    | _ => "    public " ++ f.type.name ++ " " ++ f.name ++ " = new " ++ f.type.name ++ "();"

/-- The check of an array against its size. -/
def sizeCheck (name : Text) (size : ℕ) : List Text :=
  ["        if (" ++ name ++ ".length != " ++ Text.ofNat size ++ ")",
   "            throw new IllegalArgumentException(",
   "                    \"" ++ name ++ " expects \" + " ++ Text.ofNat size
     ++ " + \" elements, got \" + " ++ name ++ ".length);"]

/-- The copy that an accessor gives back. -/
def assignment (name : Text) : List Text :=
  ["        var copy = copy();",
   "        copy." ++ name ++ " = " ++ name ++ ";",
   "        return copy;"]

/-- What an accessor is given: the elements of an array one by one. -/
def parameter (type : FieldType) : Text :=
  match type.arity with
  | .array _ => type.name ++ "..."
  | .single => type.name

/-- The accessor of a field, which checks an array of a fixed size. -/
def accessor (cls : Text) (f : Declaration) : List Text :=
  ("    public " ++ cls ++ " " ++ Naming.accessorName "with" f.name ++ "(" ++ parameter f.type
      ++ " " ++ f.name ++ ") \x7b")
    :: (match f.type.arity with
      | .array (size + 1) => sizeCheck f.name (size + 1) ++ assignment f.name
      | _ => assignment f.name)

/-- What the hash takes of a field. -/
def hashed (f : Declaration) : Text :=
  match f.type.arity with
  | .array _ => "Arrays.hashCode(" ++ f.name ++ ")"
  | .single => f.name

/-- How a field is compared. -/
def compared (f : Declaration) : Text :=
  match f.type.arity, f.type.kind with
  | .array _, _ => "Arrays.equals(" ++ f.name ++ ", other." ++ f.name ++ ")"
  | .single, .primitive => f.name ++ " == other." ++ f.name
  | .single, _ => "Objects.equals(" ++ f.name ++ ", other." ++ f.name ++ ")"

/-- A method that names every field, each in a row of its own. -/
def method (head : Text) (top : List Text) (separator tail : Text) (items bottom : List Text) :
    List Text :=
  head :: (top ++ itemRows "                " separator tail items ++ bottom)

/-- The hash of an object. -/
def hashMethod (fields : List Declaration) : List Text :=
  method "    public int hashCode() \x7b" ["        return Objects.hash("]
    "," ");" (fields.map hashed) []

/-- The comparison of objects. -/
def equalsMethod (cls : Text) (fields : List Declaration) : List Text :=
  method "    public boolean equals(Object obj) \x7b"
    ["        if (obj instanceof " ++ cls ++ " other)", "            return"]
    " &&" ";" (fields.map compared) ["        return false;"]

/-- An object as a text. -/
def textMethod (fields : List Declaration) : List Text :=
  method "    public String toString() \x7b" ["        return XJson.asString("]
    "," ");" (fields.map fun f => ['"'] ++ f.name ++ ['"'] ++ ", " ++ f.name) []

end Listing

/-! ## Parts of a body -/

/-- What is read from rows: the declarations of fields and the methods, whatever follows. -/
structure Shows (rows declarations : List Text) (opened : List (List Text)) : Prop where
  declared : rows.filter declaresField = declarations
  methods : ∀ rest, methods (rows ++ rest) = opened ++ methods rest

namespace Shows

variable {rows rows' ds ds' : List Text} {ms ms' : List (List Text)}

theorem append (h : Shows rows ds ms) (h' : Shows rows' ds' ms') :
    Shows (rows ++ rows') (ds ++ ds') (ms ++ ms') := by
  refine ⟨by rw [List.filter_append, h.declared, h'.declared], fun rest => ?_⟩
  rw [List.append_assoc, h.methods, h'.methods, List.append_assoc]

theorem flatMap {α : Type} {xs : List α} {rows ds : α → List Text} {ms : α → List (List Text)}
    (h : ∀ x ∈ xs, Shows (rows x) (ds x) (ms x)) :
    Shows (xs.flatMap rows) (xs.flatMap ds) (xs.flatMap ms) := by
  induction xs with
  | nil => exact ⟨rfl, fun rest => rfl⟩
  | cons x xs ih =>
    rw [List.forall_mem_cons] at h
    simp only [List.flatMap_cons]
    exact h.1.append (ih h.2)

/-- Rows that are neither fields nor methods are passed over. -/
theorem of_quiet (h : ∀ row ∈ rows, declaresField row = false ∧ opensMethod row = false) :
    Shows rows [] [] := by
  constructor
  · rw [List.filter_eq_nil_iff]
    intro row hrow
    rw [(h row hrow).1]
    exact Bool.false_ne_true
  · intro rest
    induction rows with
    | nil => rfl
    | cons row rows ih =>
      rw [List.forall_mem_cons] at h
      rw [List.cons_append, JavaClass.methods, if_neg (by simp [h.1.2]), ih h.2]

/-- A row that declares a field. -/
theorem of_declaration {row : Text} (hd : declaresField row = true) (ho : opensMethod row = false) :
    Shows [row] [row] [] := by
  refine ⟨by rw [List.filter_cons_of_pos hd, List.filter_nil], fun rest => ?_⟩
  rw [List.singleton_append, JavaClass.methods, if_neg (by simp [ho])]
  rfl

end Shows

/-- Rows inside of a method stand two levels deep. -/
def isInner (row : Text) : Bool := ("        " : Text).isPrefixOf row

theorem exists_of_isInner {row : Text} (h : isInner row = true) :
    ∃ rest : Text, row = "        " ++ rest := by
  obtain ⟨rest, hrest⟩ := List.isPrefixOf_iff_prefix.1 h
  exact ⟨rest, hrest.symm⟩

theorem quiet_of_not_isPublic {row : Text} (h : isPublic row = false) :
    declaresField row = false ∧ opensMethod row = false := by
  rw [declaresField, opensMethod, h]
  exact ⟨rfl, rfl⟩

theorem not_isPublic_of_isInner {row : Text} (h : isInner row = true) : isPublic row = false := by
  obtain ⟨rest, rfl⟩ := exists_of_isInner h
  rfl

theorem ne_methodEnd_of_isInner {row : Text} (h : isInner row = true) : row ≠ methodEnd := by
  rintro rfl
  revert h
  decide

theorem opensMethod_of {row : Text} (hp : isPublic row = true) (hparen : '(' ∈ row)
    (hlast : row.getLast? = some '\x7b') : opensMethod row = true := by
  rw [opensMethod, hp, hlast, List.contains_iff_mem.2 hparen]
  rfl

/-- **A method is read back with all its rows.** -/
theorem Shows.of_method {head : Text} {inner : List Text} (ho : opensMethod head = true)
    (hi : ∀ row ∈ inner, isInner row = true) :
    Shows (head :: inner ++ [methodEnd]) [] [head :: inner] := by
  -- the head alone is read, and what is read goes as far as the first closing row
  have hquiet : Shows (inner ++ [methodEnd]) [] [] := by
    refine .of_quiet fun row hrow => ?_
    rcases List.mem_append.1 hrow with hrow | hrow
    · exact quiet_of_not_isPublic (not_isPublic_of_isInner (hi row hrow))
    · rw [List.mem_singleton.1 hrow]
      exact quiet_of_not_isPublic rfl
  have hhead : declaresField head = false := by
    rw [opensMethod, Bool.and_eq_true, beq_iff_eq] at ho
    rw [declaresField, ho.2]
    exact Bool.and_false _
  constructor
  · rw [List.cons_append, List.filter_cons_of_neg (by simp [hhead])]
    exact hquiet.declared
  · intro rest
    have htake : (inner ++ [methodEnd] ++ rest).takeWhile (· ≠ methodEnd) = inner := by
      rw [List.append_assoc, List.takeWhile_append_of_pos, List.singleton_append,
        List.takeWhile_cons_of_neg (by simp), List.append_nil]
      intro row hrow
      simpa using ne_methodEnd_of_isInner (hi row hrow)
    rw [List.cons_append, List.cons_append, JavaClass.methods, if_pos ho, htake,
      hquiet.methods rest]
    rfl

/-! ## Rows of pieces -/

section Rows

variable {n : ℕ} {r t : Text} {cls : Text} {f : Declaration} {d : Definition}

/-- The rows in which pieces are shown. -/
def shownRows (ps : List Piece) : List Text := ps.flatMap fun p => Text.rows (shown p)

theorem shownRows_append (ps qs : List Piece) :
    shownRows (ps ++ qs) = shownRows ps ++ shownRows qs := List.flatMap_append

theorem shownRows_flatMap {α : Type} (xs : List α) (g : α → List Piece) :
    shownRows (xs.flatMap g) = xs.flatMap fun x => shownRows (g x) := List.flatMap_assoc

theorem feed_not_mem_indent (h : '\n' ∉ r) (n : ℕ) : '\n' ∉ indent "    " n r := by
  unfold indent
  split
  · exact List.not_mem_nil
  · intro hx
    rcases List.mem_append.1 hx with hx | hx
    · exact CodeWriter.not_mem_flatten_replicate (by decide) n hx
    · exact h hx

/-- Every row of a piece stands at its depth. -/
theorem rows_shown (n : ℕ) (t : Text) :
    Text.rows (shown (n, t)) = (Text.rows t).map (indent "    " n) := by
  refine Text.rows_unrows (fun row hrow => ?_) (by simp)
  obtain ⟨r, hr, rfl⟩ := List.mem_map.1 hrow
  exact feed_not_mem_indent (Text.not_mem_of_mem_rows hr) n

theorem shownRows_cons (h : '\n' ∉ r) (n : ℕ) (ps : List Piece) :
    shownRows ((n, r) :: ps) = indent "    " n r :: shownRows ps := by
  rw [shownRows, List.flatMap_cons, rows_shown, Text.rows_of_not_mem h]
  rfl

theorem shownRows_atDepth {rs : List Text} (h : ∀ r ∈ rs, '\n' ∉ r) (n : ℕ) :
    shownRows (Filled.atDepth n rs) = rs.map (indent "    " n) := by
  induction rs with
  | nil => rfl
  | cons r rs ih =>
    rw [List.forall_mem_cons] at h
    have hrest := ih h.2
    rw [Filled.atDepth] at hrest ⊢
    rw [List.map_cons, shownRows_cons h.1, hrest, List.map_cons]

/-- **The rows of a class.** -/
theorem rows_textAround (style : Style) (d : Definition) (checksum : Option Text)
    (constant : Text) :
    Text.rows (Filled.textAround style d checksum constant) =
      shownRows (Filled.before style d checksum) ++ Text.rows constant
        ++ shownRows (Filled.after d) ++ [[]] := by
  have hne : (Filled.before style d checksum).map shown ++ constant :: (Filled.after d).map shown
      ≠ [] := by simp
  rw [Filled.textAround, Text.rows_append_newline, Text.rows_unrows_flatMap hne,
    List.flatMap_append, List.flatMap_cons, List.flatMap_map, List.flatMap_map]
  simp only [shownRows, List.append_assoc]
  rfl

/-! ## Rows that are passed over -/

theorem Shows.of_not_isPublic {rows : List Text} (h : ∀ row ∈ rows, isPublic row = false) :
    Shows rows [] [] := .of_quiet fun row hrow => quiet_of_not_isPublic (h row hrow)

theorem Shows.of_row {row : Text} (h : isPublic row = false) : Shows [row] [] [] :=
  .of_not_isPublic (List.forall_mem_singleton.2 h)

/-- A comment can say anything, but each of its rows opens with a slash or a blank. -/
theorem exists_of_mem_docRows {rows : List Text} (h : r ∈ Template.docRows rows) :
    ∃ c rest, r = c :: rest ∧ (c = '/' ∨ c = ' ') := by
  rw [Template.docRows, List.mem_cons, List.mem_append, List.mem_singleton, List.mem_map] at h
  rcases h with rfl | ⟨l, -, rfl⟩ | rfl
  · exact ⟨_, _, rfl, .inl rfl⟩
  · unfold Template.docRow
    split <;> exact ⟨_, _, rfl, .inr rfl⟩
  · exact ⟨_, _, rfl, .inr rfl⟩

/-- Nothing is read from the comment of a field. -/
theorem shows_docPieces (t : Text) : Shows (shownRows (docPieces 1 t)) [] [] := by
  refine .of_not_isPublic fun row hrow => ?_
  have hrows : shownRows (docPieces 1 t) =
      (Template.docRows (javadocRows t)).map (indent "    " 1) :=
    shownRows_atDepth (fun r hr => feed_not_mem_docRows hr) 1
  rw [hrows] at hrow
  obtain ⟨r, hr, rfl⟩ := List.mem_map.1 hrow
  obtain ⟨c, rest, rfl, rfl | rfl⟩ := exists_of_mem_docRows hr <;> rfl

/-- Nothing is read from what stands two levels deep. -/
theorem shows_deep {ps : List Piece} (h : ∀ p ∈ ps, p.1 = 2) : Shows (shownRows ps) [] [] := by
  refine .of_not_isPublic fun row hrow => ?_
  obtain ⟨⟨n, t⟩, hp, hrow⟩ := List.mem_flatMap.1 hrow
  obtain rfl : n = 2 := h _ hp
  rw [rows_shown] at hrow
  obtain ⟨r, -, rfl⟩ := List.mem_map.1 hrow
  -- an empty row stays empty, and any other starts with eight blanks
  cases r <;> rfl

theorem not_mem_enumName {c : Char} (hc : c ∉ ("UnknownType" : Text)) (hd : c.isDigit = false)
    (k : ℕ) : c ∉ enumName k := by
  unfold enumName
  split
  · exact hc
  · rw [List.mem_append, not_or]
    exact ⟨hc, not_mem_ofNat hd _⟩

theorem mem_declarationPieces {text : Text} {p : Piece}
    (h : p ∈ Filled.declarationPieces n text f) : p.1 = n := by
  rw [Filled.declarationPieces, List.mem_append, List.mem_singleton] at h
  rcases h with h | rfl
  · split at h
    · cases h
    · obtain ⟨r, -, rfl⟩ := List.mem_map.1 h
      rfl
  · rfl

/-- The row that opens an enumeration is neither a field nor a method. -/
theorem enumHead_quiet (k : ℕ) :
    declaresField (indent "    " 1 (enumHead k)) = false ∧
      opensMethod (indent "    " 1 (enumHead k)) = false := by
  have hrow : indent "    " 1 (enumHead k) = ("    public enum " ++ enumName k : Text) ++ " \x7b" :=
    rfl
  have hlast : (indent "    " 1 (enumHead k)).getLast? = some '\x7b' := by
    rw [hrow, List.getLast?_append_of_ne_nil _ (by decide)]
    decide
  have hparen : '(' ∉ indent "    " 1 (enumHead k) := by
    have hname : '(' ∉ enumName k := not_mem_enumName (by decide) (by decide) k
    rw [hrow]
    simp [hname]
  constructor
  · rw [declaresField, hlast]
    exact Bool.and_false _
  · rw [opensMethod, List.contains_eq_mem, decide_eq_false hparen, Bool.and_false]
    rfl

/-- Nothing is read from an enumeration. -/
theorem shows_enumPieces (enum : List Declaration × ℕ) :
    Shows (shownRows (Filled.enumPieces enum)) [] [] := by
  have hfeed : '\n' ∉ enumHead enum.2 := by
    have hname : '\n' ∉ enumName enum.2 := not_mem_enumName (by decide) (by decide) enum.2
    unfold enumHead
    simp [hname]
  have hopen : Shows (shownRows [(1, []), (1, enumHead enum.2)]) [] [] := by
    rw [shownRows_cons List.not_mem_nil, shownRows_cons hfeed]
    refine .of_quiet (List.forall_mem_cons.2 ⟨⟨rfl, rfl⟩, List.forall_mem_singleton.2 ?_⟩)
    exact enumHead_quiet enum.2
  have hmembers : Shows (shownRows
      (enum.1.flatMap fun f => Filled.declarationPieces 2 (Filled.memberText f) f)) [] [] := by
    refine shows_deep fun p hp => ?_
    obtain ⟨f, -, hp⟩ := List.mem_flatMap.1 hp
    exact mem_declarationPieces hp
  have hclose : Shows (shownRows [(1, closingRow)]) [] [] := by
    rw [shownRows_cons (by decide)]
    exact .of_row rfl
  rw [Filled.enumPieces, shownRows_append, shownRows_append]
  exact (hopen.append hmembers).append hclose

/-! ## Rows that are read -/

/-- The names in a declaration have no line feeds. -/
structure InRow (f : Declaration) : Prop where
  name : '\n' ∉ f.name
  typeName : '\n' ∉ f.type.name
  importPath : ∀ path, f.type.importPath = some path → '\n' ∉ path

theorem inRow_of_reads {runtime line : Text} {c : Constant} (hr : '\n' ∉ runtime)
    (h : Reads runtime line c) : InRow c.declaration := by
  obtain ⟨field, hparse, -, hname, htoken, -⟩ := h.tokens
  have hblank : Text.isBlank '\n' = true := by decide
  have horigin := FieldType.ofToken_origin h.type
  have htype := horigin.feed_not_mem_name
  refine ⟨fun hfeed => ?_, htype, fun path hpath => ?_⟩
  · rw [hname] at hfeed
    rw [(FieldLine.not_isBlank_of_parse hparse).2 _ hfeed] at hblank
    cases hblank
  · have hin : '\n' ∉ c.declaration.typeToken := by
      intro hfeed
      rw [htoken] at hfeed
      rw [(FieldLine.not_isBlank_of_parse hparse).1 _ hfeed] at hblank
      cases hblank
    -- only the package of an imported type can come from the token
    cases horigin with
    | primitive _ hnone => rw [hnone] at hpath; cases hpath
    | sibling _ hnone => rw [hnone] at hpath; cases hpath
    | imported package _ himport hknown =>
      rw [himport] at hpath
      cases hpath
      have hpackage : '\n' ∉ package := by
        rcases hknown with hknown | hall
        · exact Text.not_mem_of_all (by decide) hknown
        · exact fun hfeed => hin (hall _ hfeed)
      rw [FieldType.qualified_three]
      simp [hr, hpackage, htype]

theorem inRow_of_parse {lines : List Text} {name runtime : Text} (hr : '\n' ∉ runtime)
    (h : Definition.parse lines name runtime = .ok d) : ∀ f ∈ d.fields, InRow f := by
  intro f hf
  obtain ⟨line, c, hreads, rfl⟩ := Definition.declared_reads h (List.mem_append_left _ hf)
  exact inRow_of_reads hr hreads

/-- The size of a field that was read can be written. -/
theorem isShort_of_parse {lines : List Text} {name runtime : Text}
    (h : Definition.parse lines name runtime = .ok d) :
    ∀ f ∈ d.fields, FieldType.IsShort f.type.arity.size := by
  intro f hf
  obtain ⟨line, c, hreads, rfl⟩ := Definition.declared_reads h (List.mem_append_left _ hf)
  exact FieldType.isShort_of_ofToken hreads.type

theorem declaration_eq (f : Declaration) :
    indent "    " 1 (Filled.fieldText f) = Listing.declaration f := by
  unfold Filled.fieldText Listing.declaration
  cases f.type.arity with
  | single => cases f.type.kind <;> rfl
  | array size => cases size <;> rfl

/-- The declaration of a field is read back. -/
theorem shows_declaration (f : Declaration) :
    Shows [Listing.declaration f] [Listing.declaration f] [] := by
  obtain ⟨hpublic, before, word, hrow, hword⟩ : isPublic (Listing.declaration f) = true ∧
      ∃ before word : Text, Listing.declaration f = before ++ word ∧ word.getLast? = some ';' := by
    unfold Listing.declaration
    cases f.type.arity with
    | single => cases f.type.kind <;> exact ⟨rfl, _, _, rfl, by decide⟩
    | array size => exact ⟨rfl, _, _, rfl, by decide⟩
  have hlast : (Listing.declaration f).getLast? = some ';' := by
    have hne : word ≠ [] := by
      rintro rfl
      cases hword
    rw [hrow, List.getLast?_append_of_ne_nil _ hne, hword]
  refine .of_declaration ?_ ?_
  · rw [declaresField, hpublic, hlast]
    rfl
  · rw [opensMethod, hlast]
    exact Bool.and_false _

/-- A field is read back as it is declared, whatever its comment says. -/
theorem shows_fieldPieces (h : InRow f) :
    Shows (shownRows (Filled.declarationPieces 1 (Filled.fieldText f) f))
      [Listing.declaration f] [] := by
  have hfeed : '\n' ∉ Filled.fieldText f := by
    have hsize : '\n' ∉ Text.ofNat f.type.arity.size := not_mem_ofNat (by decide) _
    unfold Filled.fieldText
    split_ifs <;> simp [h.name, h.typeName, hsize]
  have hcomment : Shows (shownRows (if f.comment.isEmpty then [] else docPieces 1 f.comment)) [] [] := by
    split
    · exact .of_not_isPublic (by simp [shownRows])
    · exact shows_docPieces f.comment
  rw [Filled.declarationPieces, shownRows_append, shownRows_cons hfeed, declaration_eq]
  exact hcomment.append (shows_declaration f)

theorem assignment_eq (f : Declaration) :
    (Filled.assignment f).map (indent "    " 1) = Listing.assignment f.name ++ [methodEnd] := by
  unfold Filled.assignment Listing.assignment
  rfl

theorem sizeCheck_eq (f : Declaration) :
    (Filled.sizeCheck f).map (indent "    " 1) = Listing.sizeCheck f.name f.type.arity.size := by
  unfold Filled.sizeCheck Listing.sizeCheck
  rfl

theorem accessor_eq (cls : Text) (f : Declaration) :
    (Filled.accessorRows cls f).map (indent "    " 1) = Listing.accessor cls f ++ [methodEnd] := by
  have hparameter : parameterType f = Listing.parameter f.type := by
    unfold parameterType Listing.parameter
    cases f.type.arity <;> rfl
  unfold Filled.accessorRows Listing.accessor
  rw [List.map_cons, List.map_append, assignment_eq, hparameter, List.cons_append]
  refine congrArg₂ List.cons rfl ?_
  have hcheck := sizeCheck_eq f
  cases harity : f.type.arity with
  | single => rfl
  | array size =>
    cases size with
    -- an array of any size has no size to check
    | zero => rfl
    | succ size =>
      rw [harity] at hcheck
      rw [if_pos (by rfl), hcheck, ← List.append_assoc]
      rfl

theorem feed_not_mem_accessorRows (hc : '\n' ∉ cls) (h : InRow f) :
    ∀ r ∈ Filled.accessorRows cls f, '\n' ∉ r := by
  have hsize : '\n' ∉ Text.ofNat f.type.arity.size := not_mem_ofNat (by decide) _
  have hmethod : '\n' ∉ Naming.accessorName "with" f.name :=
    Naming.not_mem_accessorName (by decide) h.name (by decide)
  have hparameter : '\n' ∉ parameterType f := by
    unfold parameterType
    split <;> simp [h.typeName]
  intro r hr
  rw [Filled.accessorRows, List.mem_cons, List.mem_append] at hr
  rcases hr with rfl | hr | hr
  · generalize Naming.accessorName "with" f.name = method at hmethod
    simp [hc, hmethod, hparameter, h.name]
  · split at hr
    · simp only [Filled.sizeCheck, List.mem_cons, List.not_mem_nil, or_false] at hr
      rcases hr with rfl | rfl | rfl
      · simp [h.name, hsize]
      · decide
      · simp [h.name, hsize]
    · cases hr
  · simp only [Filled.assignment, List.mem_cons, List.not_mem_nil, or_false] at hr
    rcases hr with rfl | rfl | rfl | rfl
    · decide
    · simp [h.name]
    · decide
    · decide

/-- The accessor of a field is read back. -/
theorem shows_accessor (hc : '\n' ∉ cls) (h : InRow f) :
    Shows (shownRows [(1, []), (1, Text.unrows (Filled.accessorRows cls f))]) []
      [Listing.accessor cls f] := by
  have hrows : shownRows [(1, []), (1, Text.unrows (Filled.accessorRows cls f))] =
      [] :: (Listing.accessor cls f ++ [methodEnd]) := by
    have hblock : Text.rows (shown (1, Text.unrows (Filled.accessorRows cls f))) =
        Listing.accessor cls f ++ [methodEnd] := by
      rw [rows_shown, Text.rows_unrows (feed_not_mem_accessorRows hc h)
        (by simp [Filled.accessorRows]), accessor_eq]
    rw [shownRows_cons List.not_mem_nil, shownRows, List.flatMap_singleton, hblock]
    rfl
  obtain ⟨head, inner, haccessor, hopens, hinner⟩ : ∃ head inner,
      Listing.accessor cls f = head :: inner ∧ opensMethod head = true ∧
        ∀ row ∈ inner, isInner row = true := by
    refine ⟨_, _, rfl, ?_, ?_⟩
    · refine opensMethod_of rfl (by simp) ?_
      rw [List.getLast?_append_of_ne_nil _ (by decide)]
      decide
    · have hassignment : (Listing.assignment f.name).all isInner = true := rfl
      have hcheck : ∀ size, (Listing.sizeCheck f.name size).all isInner = true := fun _ => rfl
      refine List.all_eq_true.1 ?_
      split
      · rw [List.all_append, hcheck, hassignment]
        rfl
      · exact hassignment
  rw [hrows, haccessor]
  have hblank : Shows [[]] [] [] := .of_row rfl
  exact hblank.append (.of_method hopens hinner)

/-! ## Methods over all fields -/

theorem copies_eq_itemRows (indent separator tail : Text) (items : List Text) :
    Repetition.copies indent separator tail items = itemRows indent separator tail items := by
  fun_induction Repetition.copies indent separator tail items with
  | case1 => rfl
  | case2 item => rfl
  | case3 item items hne ih =>
    obtain ⟨next, items, rfl⟩ := List.exists_cons_of_ne_nil hne
    rw [ih]
    rfl

theorem map_indent_itemRows (separator tail : Text) (items : List Text) :
    (itemRows "            " separator tail items).map (indent "    " 1) =
      itemRows "                " separator tail items := by
  rw [itemRows, itemRows, List.map_append, List.map_map, List.map_map]
  rfl

theorem isInner_of_mem_itemRows {separator tail row : Text} {items : List Text}
    (h : row ∈ itemRows "                " separator tail items) : isInner row = true := by
  rw [itemRows, List.mem_append, List.mem_map, List.mem_map] at h
  rcases h with ⟨item, -, rfl⟩ | ⟨item, -, rfl⟩ <;> rfl

theorem feed_not_mem_itemRows {indent separator tail : Text} {items : List Text}
    (hi : '\n' ∉ indent) (hs : '\n' ∉ separator) (ht : '\n' ∉ tail)
    (h : ∀ item ∈ items, '\n' ∉ item) : ∀ r ∈ itemRows indent separator tail items, '\n' ∉ r := by
  intro r hr
  rw [itemRows, List.mem_append, List.mem_map, List.mem_map] at hr
  rcases hr with ⟨item, hitem, rfl⟩ | ⟨item, hitem, rfl⟩
  · simp [hi, hs, h item (List.dropLast_subset _ hitem)]
  · have hmem : item ∈ items := List.mem_of_getLast? (by simpa using hitem)
    simp [hi, ht, h item hmem]

/-- The row above a method that every object has. -/
def overrideRow : Text := "    @Override"

/-- **A method over all fields is read back.** -/
theorem shows_methodRows {top items bottom inner outer : List Text} {head separator tail : Text}
    (hfeed : ∀ r ∈ top ++ bottom, '\n' ∉ r) (hs : '\n' ∉ separator) (ht : '\n' ∉ tail)
    (hitems : ∀ item ∈ items, '\n' ∉ item)
    (htop : top.map (indent "    " 1) = overrideRow :: head :: inner)
    (hbottom : bottom.map (indent "    " 1) = outer ++ [methodEnd])
    (hopens : opensMethod head = true) (hinner : (inner ++ outer).all isInner = true) :
    Shows (shownRows (Filled.atDepth 1 (Filled.methodRows top items bottom separator tail))) []
      [Listing.method head inner separator tail items outer] := by
  -- no row between the head and the end may open or close a method
  have hdeep : ∀ row ∈ inner ++ itemRows "                " separator tail items ++ outer,
      isInner row = true := by
    rw [List.all_append, Bool.and_eq_true] at hinner
    intro row hrow
    rcases List.mem_append.1 hrow with hrow | hrow
    · rcases List.mem_append.1 hrow with hrow | hrow
      · exact List.all_eq_true.1 hinner.1 row hrow
      · exact isInner_of_mem_itemRows hrow
    · exact List.all_eq_true.1 hinner.2 row hrow
  have hrows : shownRows (Filled.atDepth 1 (Filled.methodRows top items bottom separator tail)) =
      overrideRow :: (Listing.method head inner separator tail items outer ++ [methodEnd]) := by
    have hcopies : ∀ r ∈ itemRows "            " separator tail items, '\n' ∉ r :=
      feed_not_mem_itemRows (by decide) hs ht hitems
    rw [Filled.methodRows, copies_eq_itemRows, shownRows_atDepth, List.map_append,
      List.map_append, htop, hbottom, map_indent_itemRows, Listing.method]
    · simp only [List.cons_append, List.append_assoc]
    · intro r hr
      rw [List.mem_append, List.mem_append] at hr
      rcases hr with (hr | hr) | hr
      · exact hfeed r (List.mem_append_left _ hr)
      · exact hcopies r hr
      · exact hfeed r (List.mem_append_right _ hr)
  have hoverride : Shows [overrideRow] [] [] := .of_row rfl
  rw [hrows]
  exact hoverride.append (.of_method hopens hdeep)

section Identity

variable (h : ∀ f ∈ d.fields, InRow f)
include h

theorem feed_not_mem_items {expression : Declaration → Text}
    (he : ∀ f, InRow f → '\n' ∉ expression f) : ∀ item ∈ d.fields.map expression, '\n' ∉ item := by
  intro item hitem
  obtain ⟨f, hf, rfl⟩ := List.mem_map.1 hitem
  exact he f (h f hf)

theorem shows_hashRows :
    Shows (shownRows (Filled.atDepth 1 (Filled.hashRows d))) [] [Listing.hashMethod d.fields] := by
  have hexpression : hashExpression = Listing.hashed := by
    funext f
    unfold hashExpression Listing.hashed
    cases f.type.arity <;> rfl
  have hitems : ∀ item ∈ d.fields.map Listing.hashed, '\n' ∉ item := by
    refine feed_not_mem_items h fun f hf => ?_
    unfold Listing.hashed
    split <;> simp [hf.name]
  rw [Filled.hashRows, hexpression]
  exact shows_methodRows (by decide +kernel) (by decide) (by decide) hitems (by decide +kernel)
    (by decide +kernel) (by decide +kernel) (by decide +kernel)

theorem shows_equalsRows (hc : '\n' ∉ cls) :
    Shows (shownRows (Filled.atDepth 1 (Filled.equalsRows cls d))) []
      [Listing.equalsMethod cls d.fields] := by
  have hexpression : equalsExpression = Listing.compared := by
    funext f
    unfold equalsExpression Listing.compared
    cases f.type.arity <;> cases f.type.kind <;> rfl
  have hitems : ∀ item ∈ d.fields.map Listing.compared, '\n' ∉ item := by
    refine feed_not_mem_items h fun f hf => ?_
    unfold Listing.compared
    split <;> simp [hf.name]
  rw [Filled.equalsRows, hexpression]
  refine shows_methodRows ?_ (by decide) (by decide) hitems rfl rfl (by decide) rfl
  simp [hc]

theorem shows_textRows :
    Shows (shownRows (Filled.atDepth 1 (Filled.textRows d))) [] [Listing.textMethod d.fields] := by
  have hitems : ∀ item ∈ d.fields.map textExpression, '\n' ∉ item := by
    refine feed_not_mem_items h fun f hf => ?_
    unfold textExpression literal
    simp [hf.name]
  exact shows_methodRows (by decide +kernel) (by decide) (by decide) hitems (by decide +kernel)
    (by decide +kernel) (by decide +kernel) (by decide +kernel)

end Identity

/-! ## The whole class -/

theorem shows_blank : Shows (shownRows [(1, [])]) [] [] := by
  rw [shownRows_cons List.not_mem_nil]
  exact .of_row rfl

theorem shows_copyRows (hc : '\n' ∉ cls) :
    Shows (shownRows (Filled.atDepth 1 (Filled.copyRows cls))) [] [] := by
  have hfeed : ∀ r ∈ Filled.copyRows cls, '\n' ∉ r := by simp [Filled.copyRows, hc]
  have hquiet : ((Filled.copyRows cls).map (indent "    " 1)).all (!isPublic ·) = true := rfl
  rw [shownRows_atDepth hfeed]
  refine .of_not_isPublic fun row hrow => ?_
  simpa using List.all_eq_true.1 hquiet row hrow

/-- The enumerations are passed over, and the fields are read back. -/
theorem shows_allFields (hne : d.fields ≠ []) (h : ∀ f ∈ d.fields, InRow f) :
    Shows (shownRows (Filled.fieldPieces d)) (d.fields.map Listing.declaration) [] := by
  have henums := Shows.flatMap fun enum (_ : enum ∈ d.enums.zipIdx) => shows_enumPieces enum
  have hfields := Shows.flatMap fun f hf => shows_fieldPieces (h f hf)
  rw [← shownRows_flatMap, List.flatMap_eq_nil_iff.2 fun _ _ => rfl,
    List.flatMap_eq_nil_iff.2 fun _ _ => rfl] at henums
  rw [← shownRows_flatMap, ← List.map_eq_flatMap, List.flatMap_eq_nil_iff.2 fun _ _ => rfl]
    at hfields
  rw [Filled.fieldPieces, if_neg (by simpa using hne), shownRows_append, shownRows_append]
  exact (henums.append shows_blank).append hfields

/-- The accessors and the methods over all fields are read back. -/
theorem shows_allMethods (hne : d.fields ≠ []) (h : ∀ f ∈ d.fields, InRow f) (hc : '\n' ∉ cls) :
    Shows (shownRows (Filled.methodPieces cls d)) []
      (d.fields.map (Listing.accessor cls) ++
        [Listing.hashMethod d.fields, Listing.equalsMethod cls d.fields,
          Listing.textMethod d.fields]) := by
  have haccessors := Shows.flatMap fun f hf => shows_accessor hc (h f hf)
  rw [← shownRows_flatMap, ← List.map_eq_flatMap, List.flatMap_eq_nil_iff.2 fun _ _ => rfl]
    at haccessors
  have hsplit : Filled.atDepth 1 ([] :: Filled.hashRows d ++ [] :: Filled.equalsRows cls d
        ++ [] :: Filled.textRows d) =
      ([(1, [])] ++ Filled.atDepth 1 (Filled.hashRows d))
        ++ ([(1, [])] ++ Filled.atDepth 1 (Filled.equalsRows cls d))
        ++ ([(1, [])] ++ Filled.atDepth 1 (Filled.textRows d)) := by
    simp only [Filled.atDepth, List.map_append, List.map_cons]
    rfl
  rw [Filled.methodPieces, if_neg (by simpa using hne), shownRows_append, hsplit]
  simp only [shownRows_append]
  exact haccessors.append (((shows_blank.append (shows_hashRows h)).append
    (shows_blank.append (shows_equalsRows h hc))).append (shows_blank.append (shows_textRows h)))

/-- **The body of a class**: fields and methods are read back, one for each field. -/
theorem shows_after (hne : d.fields ≠ []) (h : ∀ f ∈ d.fields, InRow f) :
    Shows (shownRows (Filled.after d)) (d.fields.map Listing.declaration)
      (d.fields.map (Listing.accessor (className d.name)) ++
        [Listing.hashMethod d.fields, Listing.equalsMethod (className d.name) d.fields,
          Listing.textMethod d.fields]) := by
  have hc := Naming.feed_not_mem_className d.name
  have hclose : Shows (shownRows [(0, closingRow)]) [] [] := by
    rw [shownRows_cons (by decide)]
    exact .of_row rfl
  have hbody := (((shows_copyRows hc).append (shows_allFields hne h)).append
    (shows_allMethods hne h hc)).append hclose
  rw [Filled.after]
  simp only [shownRows_append]
  simpa only [List.nil_append, List.append_nil] using hbody

/-- The row that opens the annotation. -/
def annotationHead : Text := "@MessageMetadata("

theorem ne_annotationHead {row : Text} (h : row.head? ≠ some '@') : row ≠ annotationHead := by
  rintro rfl
  exact h (by decide)

/-- A row at the margin that does not look like the annotation. -/
def IsPlainRow (p : Piece) : Prop := p.1 = 0 ∧ '\n' ∉ p.2 ∧ p.2.head? ≠ some '@'

theorem ne_annotationHead_of_plain {ps : List Piece} (h : ∀ p ∈ ps, IsPlainRow p) :
    ∀ row ∈ shownRows ps, row ≠ annotationHead := by
  intro row hrow
  obtain ⟨⟨n, t⟩, hp, hrow⟩ := List.mem_flatMap.1 hrow
  obtain ⟨rfl, hfeed, hhead⟩ := h _ hp
  rw [shown, CodeWriter.shift_zero, Text.rows_of_not_mem hfeed, List.mem_singleton] at hrow
  rw [hrow]
  exact ne_annotationHead hhead

/-- **Nothing above the annotation looks like it.** -/
theorem plain_top {javaPackage runtime : Text} (hp : '\n' ∉ javaPackage) (hn : '\n' ∉ d.name)
    (hr : '\n' ∉ runtime) (h : ∀ f ∈ d.fields, InRow f) :
    ∀ p ∈ Filled.atDepth 0 (Filled.headerRows d.name) ++ packagePieces javaPackage
      ++ importPieces runtime d ++ docPieces 0 (classComment d), IsPlainRow p := by
  have hheader : ∀ p ∈ Filled.atDepth 0 (Filled.headerRows d.name), IsPlainRow p := by
    simp [Filled.atDepth, Filled.headerRows, IsPlainRow, hn]
  have hpackage : ∀ p ∈ packagePieces javaPackage, IsPlainRow p := by
    simp [packagePieces, IsPlainRow, hp]
  have himports : ∀ p ∈ importPieces runtime d, IsPlainRow p := by
    have hpaths : ∀ path ∈ imports runtime d, '\n' ∉ path := by
      intro path hpath
      rcases mem_imports hpath with (rfl | rfl) | hfixed | ⟨f, hf, himport⟩
      · simp [hr]
      · simp [hr]
      · exact Text.not_mem_of_all (by decide) hfixed
      · exact (h f hf).importPath path himport
    intro p hp
    rw [importPieces, List.mem_append, List.mem_map, List.mem_singleton] at hp
    rcases hp with ⟨path, hpath, rfl⟩ | rfl
    · have hfeed : '\n' ∉ Template.importRow path := by
        unfold Template.importRow
        simp [hpaths path hpath]
      exact ⟨rfl, hfeed, by unfold Template.importRow; simp⟩
    · exact ⟨rfl, List.not_mem_nil, by simp⟩
  have hdoc : ∀ p ∈ docPieces 0 (classComment d), IsPlainRow p := by
    intro p hp
    obtain ⟨r, hrow, rfl⟩ := List.mem_map.1 hp
    have hfeed := feed_not_mem_docRows hrow
    obtain ⟨c, rest, rfl, rfl | rfl⟩ := exists_of_mem_docRows hrow <;> exact ⟨rfl, hfeed, by simp⟩
  simp only [List.forall_mem_append]
  exact ⟨⟨⟨hheader, hpackage⟩, himports⟩, hdoc⟩

/-- The rows of the annotation. -/
theorem shownRows_metadata (cls : Text) (d : Definition) (sum : Option Text) :
    shownRows (Filled.atDepth 0 (Filled.annotationRows cls d sum)) =
      annotationHead ::
        (itemRows "        " "," ")" (Listing.metadata cls d.fields sum)).flatMap Text.rows := by
  have hitems : Filled.annotationItems cls d sum = Listing.metadata cls d.fields sum := by
    cases sum <;> rfl
  -- a checksum may hold line feeds, so the rows of the items are split again
  have hrows : ∀ rs : List Text, shownRows (Filled.atDepth 0 rs) = rs.flatMap Text.rows := by
    intro rs
    rw [Filled.atDepth, shownRows, List.flatMap_map]
    simp only [shown, CodeWriter.shift_zero]
  rw [hrows, Filled.annotationRows, copies_eq_itemRows, hitems, List.flatMap_cons,
    Text.rows_of_not_mem (by decide)]
  rfl

/-- **The rows down to the body of a class.** -/
theorem shownRows_before {style : Style} (d : Definition) (checksum : Option Text) :
    shownRows (Filled.before style d checksum) =
      shownRows (Filled.atDepth 0 (Filled.headerRows d.name) ++ packagePieces style.javaPackage
        ++ importPieces style.runtime d ++ docPieces 0 (classComment d)) ++
      annotationHead ::
        ((itemRows "        " "," ")" (Listing.metadata (className d.name) d.fields
          (Filled.sum? style checksum))).flatMap Text.rows
        ++ [Filled.headRow (className d.name), []]) := by
  have hhead : '\n' ∉ Filled.headRow (className d.name) := by
    have hc := Naming.feed_not_mem_className d.name
    generalize className d.name = cls at hc
    unfold Filled.headRow
    simp [hc]
  have hopening : shownRows [(0, Filled.headRow (className d.name)), (1, [])] =
      [Filled.headRow (className d.name), []] := by
    rw [shownRows_cons hhead, shownRows_cons List.not_mem_nil, CodeWriter.indent_zero]
    rfl
  rw [Filled.before, shownRows_append, hopening, shownRows_append, shownRows_metadata,
    List.append_assoc, List.cons_append]

end Rows

/-- **All sections of a class go over the same fields.** For a definition with fields that was
read, the rows of its class are the annotation, the row that opens the class and its body, once
what stands above them is passed over. The annotation lists the quoted names of the fields as
soon as there are two. The rows that declare fields are one for each field, in the form for its
type, and the public methods are one accessor for each field, then the hash, the comparison and
the text, with one item for each field. All of them go over the fields in order. The class need
not have the runtime that the definition was read with. The sizes of the fields are short enough
to be written. -/
theorem sections_enumerate_fields {lines : List Text} {name runtime javaPackage library : Text}
    {d : Definition} (dialect : Dialect) (files : FileTree) (checksum : Option Text)
    (h : Definition.parse lines name runtime = .ok d) (hne : d.fields ≠ [])
    (hdollar : DollarFree (Style.packaged javaPackage library dialect files) d checksum)
    (hpackage : '\n' ∉ javaPackage) (hruntime : '\n' ∉ runtime) (hlibrary : '\n' ∉ library)
    (hname : '\n' ∉ name) :
    let style := Style.packaged javaPackage library dialect files
    let cls := className name
    (∀ f ∈ d.fields, FieldType.IsShort f.type.arity.size) ∧
    ∃ text body, render style d checksum = .ok text ∧
      (Text.rows text).dropWhile (· ≠ annotationHead) =
        annotationHead ::
          ((itemRows "        " "," ")"
              (Listing.metadata cls d.fields (Filled.sum? style checksum))).flatMap Text.rows
            ++ Filled.headRow cls :: body) ∧
      body.filter declaresField = d.fields.map Listing.declaration ∧
      methods body = d.fields.map (Listing.accessor cls) ++
        [Listing.hashMethod d.fields, Listing.equalsMethod cls d.fields,
          Listing.textMethod d.fields] := by
  intro style cls
  obtain ⟨rfl, -⟩ := parse_trims h
  have hrow := inRow_of_parse hruntime h
  -- the constant that holds the name is one row, like everything else that is not read
  obtain ⟨constant, hconstant⟩ : ∃ constant : Text, constant = "    " ++ Filled.nameRow d.name :=
    ⟨_, rfl⟩
  have hsingle : Text.rows constant = [constant] := by
    refine Text.rows_of_not_mem ?_
    rw [hconstant]
    unfold Filled.nameRow
    simp [hname]
  have hopening : Shows [[], constant] [] [] := by
    rw [hconstant]
    exact .of_not_isPublic (List.forall_mem_cons.2 ⟨rfl, List.forall_mem_singleton.2 rfl⟩)
  have hend : Shows [[]] [] [] := .of_row rfl
  have hbody := (hopening.append (shows_after hne hrow)).append hend
  rw [List.nil_append, List.append_nil, List.nil_append, List.append_nil] at hbody
  refine ⟨isShort_of_parse h, Filled.textAround style d checksum constant,
    [[], constant] ++ shownRows (Filled.after d) ++ [[]], ?_, ?_, hbody.declared, ?_⟩
  · rw [hconstant]
    exact render_eq_textAround ⟨files, rfl⟩ hdollar
  · have htop := ne_annotationHead_of_plain (plain_top hpackage hname hlibrary hrow)
    rw [rows_textAround, shownRows_before, hsingle, List.append_assoc, List.append_assoc,
      List.append_assoc, List.dropWhile_append_of_pos]
    · rw [List.cons_append, List.dropWhile_cons_of_neg (by simp)]
      simp only [List.append_assoc, List.cons_append, List.nil_append]
      rfl
    · intro row hr
      simpa using htop row hr
  · have hmethods := hbody.methods []
    rwa [List.append_nil, methods, List.append_nil] at hmethods

/-- An array of a fixed size, and a field whose comment looks like a declaration. -/
theorem sections_enumerate_fields_pair :
    let lines : List Text := ["int8 LOW=0", "float64[3] at", "# public int no;", "Point p"]
    let style := Style.packaged "org.example" defaultRuntime .ros1 ⟨[], []⟩
    let d : Definition :=
      { name := "p/Pair"
        fields := [⟨"at", "float64[3]", ⟨.primitive, "double", none, .array 3⟩, [], []⟩,
          ⟨"p", "Point", ⟨.sibling, "PointMessage", none, .single⟩, [], "public int no;"⟩]
        enums := [[⟨"LOW", "int8", ⟨.primitive, "byte", none, .single⟩, "0", []⟩]] }
    let opening : List Text :=
      ["@MessageMetadata(",
       "        name = PairMessage.NAME,",
       "        fields = \x7b \"at\", \"p\" \x7d,",
       "        md5sum = \"5a",
       "\")",
       "public class PairMessage implements Message, Cloneable \x7b"]
    let declared : List Text :=
      ["    public double[] at = new double[3];", "    public PointMessage p = new PointMessage();"]
    let hash : List Text :=
      ["    public int hashCode() \x7b",
       "        return Objects.hash(",
       "                Arrays.hashCode(at),",
       "                p);"]
    Definition.parse lines "p/Pair" defaultRuntime = .ok d ∧ DollarFree style d (some "5a\n") ∧
      ∃ text body, render style d (some "5a\n") = .ok text ∧
        (Text.rows text).dropWhile (· ≠ annotationHead) = opening ++ body ∧
        body.filter declaresField = declared ∧
        (methods body).length = 5 ∧ hash ∈ methods body := by
  intro lines style d opening declared hash
  have hparse : Definition.parse lines "p/Pair" defaultRuntime = .ok d := by decide +kernel
  have hfree : DollarFree style d (some "5a\n") := by
    refine ⟨by decide, by decide, by decide, by decide, ?_, ?_, ?_⟩
    · intro f hf
      simp only [d, List.mem_cons, List.not_mem_nil, or_false] at hf
      rcases hf with rfl | rfl <;> exact ⟨by decide, by decide, by decide, by simp⟩
    · intro enum henum f hf
      obtain rfl := List.mem_singleton.1 henum
      obtain rfl := List.mem_singleton.1 hf
      exact ⟨by decide, by decide, by decide, by simp⟩
    · rintro sum hsum
      obtain rfl := Option.some.inj hsum
      decide
  have hopening : annotationHead :: (itemRows "        " "," ")" (Listing.metadata
      (className "p/Pair") d.fields (Filled.sum? style (some "5a\n")))).flatMap Text.rows
        ++ [Filled.headRow (className "p/Pair")] = opening := by
    decide +kernel
  have hhash : Listing.hashMethod d.fields = hash := by decide +kernel
  obtain ⟨-, text, body, hrender, hmetadata, hdeclared, hmethods⟩ :=
    sections_enumerate_fields .ros1 ⟨[], []⟩ (some "5a\n") hparse (by simp [d]) hfree (by decide)
      (by decide) (by decide) (by decide)
  refine ⟨hparse, hfree, text, body, hrender, ?_, ?_, ?_, ?_⟩
  · rw [hmetadata, ← hopening, List.append_assoc]
    rfl
  · rw [hdeclared]
    decide +kernel
  · rw [hmethods]
    rfl
  · rw [hmethods, ← hhash]
    exact List.mem_append_right _ List.mem_cons_self

end RosBindings.JavaClass

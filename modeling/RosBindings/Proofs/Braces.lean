import Mathlib.Combinatorics.Enumerative.DyckWord
import RosBindings.Proofs.Filling

/-!
# The braces of a class

The braces of a text are read as steps, up at an opening one and down at a closing one, and a
text is `Balanced` if these steps are a Dyck word. A class is put together from level pieces:
pieces without braces, pieces that open a brace and close it, and blocks around level pieces.

* `Markless` says that no brace and no dollar sign comes in from outside.
* `level_classTop` and `level_classBody`: what stands above the row that opens the class is
  level, and so is what stands between that row and the last one.
* `render_braces_match`: the braces of every class match, and the brace of the class is closed
  by the last one of the text.
-/

namespace RosBindings

open DyckStep (U D)

/-! ## Braces as steps -/

/-- Steps that make a Dyck word. -/
def Matched (steps : List DyckStep) : Prop := ∃ w : DyckWord, w.toList = steps

namespace Matched

variable {s r : List DyckStep}

theorem nil : Matched [] := ⟨0, rfl⟩

theorem append (hs : Matched s) (hr : Matched r) : Matched (s ++ r) := by
  obtain ⟨w, rfl⟩ := hs
  obtain ⟨w', rfl⟩ := hr
  exact ⟨w + w', rfl⟩

theorem nest (hs : Matched s) : Matched (U :: s ++ [D]) := by
  obtain ⟨w, rfl⟩ := hs
  exact ⟨w.nest, rfl⟩

theorem flatMap {α : Type} {xs : List α} {g : α → List DyckStep} (h : ∀ x ∈ xs, Matched (g x)) :
    Matched (xs.flatMap g) := by
  induction xs with
  | nil => exact nil
  | cons x xs ih =>
    rw [List.forall_mem_cons] at h
    rw [List.flatMap_cons]
    exact h.1.append (ih h.2)

end Matched

namespace Text

variable {t u p : Text}

/-- An opening brace is a step up, a closing one a step down. -/
def braceStep? (c : Char) : Option DyckStep :=
  if c = '{' then some U else if c = '}' then some D else none

/-- The braces of a text, as steps. -/
def braces (t : Text) : List DyckStep := t.filterMap braceStep?

@[simp] theorem braces_nil : braces [] = [] := rfl

theorem braces_append (t u : Text) : braces (t ++ u) = braces t ++ braces u :=
  List.filterMap_append

@[simp] theorem braces_feed_cons (t : Text) : braces ('\n' :: t) = braces t := rfl

theorem braces_eq_nil (ho : '{' ∉ t) (hc : '}' ∉ t) : braces t = [] := by
  rw [braces, List.filterMap_eq_nil_iff]
  intro c hmem
  have hno : c ≠ '{' := fun h => ho (h ▸ hmem)
  have hnc : c ≠ '}' := fun h => hc (h ▸ hmem)
  rw [braceStep?, if_neg hno, if_neg hnc]

theorem count_braces_U (t : Text) : (braces t).count U = t.count '{' := by
  rw [braces, List.count_filterMap, List.count]
  refine List.countP_congr fun c _ => ?_
  unfold braceStep?
  split_ifs with ho <;> simp [ho]

theorem count_braces_D (t : Text) : (braces t).count D = t.count '}' := by
  rw [braces, List.count_filterMap, List.count]
  refine List.countP_congr fun c _ => ?_
  unfold braceStep?
  split_ifs with ho hc
  · simp [ho]
  · simp [hc]
  · simp [hc]

theorem braces_join {sep : Text} (hs : braces sep = []) (ts : List Text) :
    braces (join sep ts) = ts.flatMap braces := by
  induction ts with
  | nil => rfl
  | cons t ts ih =>
    rcases ts with _ | ⟨u, ts⟩
    · simp [join]
    · rw [List.flatMap_cons, ← ih, join, List.intercalate_cons_cons, braces_append, braces_append,
        hs, List.append_nil]
      rfl

/-- Line feeds are no steps. -/
theorem braces_unrows (rs : List Text) : braces (unrows rs) = rs.flatMap braces :=
  braces_join rfl rs

/-- A text in which every brace is closed, and none before it is opened. -/
def Balanced (t : Text) : Prop := Matched (braces t)

namespace Balanced

theorem append (ht : Balanced t) (hu : Balanced u) : Balanced (t ++ u) := by
  rw [Balanced, braces_append]
  exact Matched.append ht hu

/-- A block around a balanced text. -/
theorem block (hu : Balanced u) {head close : Text} (hhead : braces head = [U])
    (hclose : braces close = [D]) : Balanced (head ++ u ++ close) := by
  rw [Balanced, braces_append, braces_append, hhead, hclose]
  exact Matched.nest hu

theorem count_eq (h : Balanced t) : t.count '{' = t.count '}' := by
  obtain ⟨w, hw⟩ := h
  rw [← count_braces_U, ← count_braces_D, ← hw, w.count_U_eq_count_D]

theorem count_le (h : Balanced t) (hp : p <+: t) : p.count '}' ≤ p.count '{' := by
  obtain ⟨w, hw⟩ := h
  have hpre : braces p <+: w.toList := hw ▸ hp.filterMap braceStep?
  rw [← count_braces_U, ← count_braces_D, List.prefix_iff_eq_take.1 hpre]
  exact w.count_D_le_count_U _

/-- Between the brace of a block and the one that closes it, the brace of the block is open. -/
theorem count_lt (ht : Balanced t) (hu : Balanced u) {head : Text} (hhead : braces head = [U])
    (hle : t ++ head <+: p) (hp : p <+: t ++ head ++ u) : p.count '}' < p.count '{' := by
  obtain ⟨q, rfl⟩ := hle
  have hq : q.count '}' ≤ q.count '{' :=
    hu.count_le ((List.prefix_append_right_inj _).1 hp)
  have hopen : head.count '{' = 1 := by rw [← count_braces_U, hhead]; rfl
  have hclose : head.count '}' = 0 := by rw [← count_braces_D, hhead]; rfl
  have htop := ht.count_eq
  simp only [List.count_append]
  omega

end Balanced

/-- No brace and no dollar sign stands in the text. -/
structure Markless (t : Text) : Prop where
  opening : '{' ∉ t
  closing : '}' ∉ t
  dollar : '$' ∉ t

instance : DecidablePred Markless := fun t =>
  decidable_of_iff ('{' ∉ t ∧ '}' ∉ t ∧ '$' ∉ t)
    ⟨fun h => ⟨h.1, h.2.1, h.2.2⟩, fun h => ⟨h.opening, h.closing, h.dollar⟩⟩

theorem Markless.braces (h : Markless t) : braces t = [] := braces_eq_nil h.opening h.closing

end Text

namespace JavaClass

open CodeWriter (shift shown)
open Text (braces braces_append braces_unrows)

/-! ## Level pieces -/

theorem braces_shift (n : ℕ) (t : Text) : braces (shift n t) = braces t := by
  have hindent : ∀ r : Text, braces (CodeWriter.indent "    " n r) = braces r := by
    intro r
    have hpad : braces (List.replicate n ("    " : Text)).flatten = [] := by
      induction n with
      | zero => rfl
      | succ n ih =>
        rw [List.replicate_succ, List.flatten_cons, braces_append, ih]
        rfl
    unfold CodeWriter.indent
    split
    · simp_all
    · rw [braces_append, hpad, List.nil_append]
  have hrows : (Text.rows t).flatMap braces = braces t := by
    rw [← braces_unrows, Text.unrows_rows]
  rw [shift, braces_unrows, List.flatMap_map, ← hrows]
  exact List.flatMap_congr fun r _ => hindent r

/-- The braces of pieces, as steps. -/
def pieceBraces (ps : List Piece) : List DyckStep := ps.flatMap fun p => braces p.2

theorem pieceBraces_append (ps qs : List Piece) :
    pieceBraces (ps ++ qs) = pieceBraces ps ++ pieceBraces qs := List.flatMap_append

theorem pieceBraces_cons (n : ℕ) (t : Text) (ps : List Piece) :
    pieceBraces ((n, t) :: ps) = braces t ++ pieceBraces ps := List.flatMap_cons

theorem pieceBraces_map (n : ℕ) (rows : List Text) :
    pieceBraces (rows.map (Prod.mk n)) = rows.flatMap braces := List.flatMap_map _ _ rows

theorem braces_unrows_shown (ps : List Piece) :
    braces (Text.unrows (ps.map shown)) = pieceBraces ps := by
  rw [braces_unrows, List.flatMap_map, pieceBraces]
  exact List.flatMap_congr fun p _ => braces_shift p.1 p.2

/-- Pieces in which every brace is closed, and none before it is opened. -/
def Level (ps : List Piece) : Prop := Matched (pieceBraces ps)

namespace Level

variable {ps qs : List Piece}

theorem of_eq_nil (h : pieceBraces ps = []) : Level ps := by
  rw [Level, h]
  exact .nil

/-- Pieces that open a brace and close it. -/
theorem of_eq_pair (h : pieceBraces ps = [U, D]) : Level ps := by
  rw [Level, h]
  exact Matched.nil.nest

theorem append (hp : Level ps) (hq : Level qs) : Level (ps ++ qs) := by
  rw [Level, pieceBraces_append]
  exact Matched.append hp hq

theorem flatMap {α : Type} {xs : List α} {g : α → List Piece} (h : ∀ x ∈ xs, Level (g x)) :
    Level (xs.flatMap g) := by
  rw [Level, pieceBraces, List.flatMap_assoc]
  exact Matched.flatMap h

/-- A block around level pieces. -/
theorem block (h : Level ps) {head close : Text} (hhead : braces head = [U])
    (hclose : braces close = [D]) (n m : ℕ) : Level ((n, head) :: ps ++ [(m, close)]) := by
  rw [Level, pieceBraces_append, pieceBraces_cons, pieceBraces_cons, hhead, hclose]
  exact Matched.nest h

end Level

theorem braces_escapeEnd (t : Text) : braces (escapeEnd t) = braces t := by
  fun_induction escapeEnd t with
  | case1 => rfl
  | case2 cs ih =>
    rw [braces_append, ih]
    rfl
  | case3 c cs _ ih =>
    rw [← List.singleton_append, braces_append, ih, ← braces_append]
    rfl

/-- The braces of a documentation comment are those of its text. -/
theorem pieceBraces_docPieces (n : ℕ) (t : Text) : pieceBraces (docPieces n t) = braces t := by
  have hrow : ∀ r, braces (Template.docRow (escapeEnd r)) = braces r := by
    intro r
    rw [← braces_escapeEnd r]
    unfold Template.docRow
    split
    · simp_all; rfl
    · rw [braces_append]; rfl
  have hrows : (javadocRows t).flatMap (fun r => braces (Template.docRow r)) = braces t := by
    rw [javadocRows, List.flatMap_map, List.flatMap_congr fun r _ => hrow r, ← braces_unrows,
      Text.unrows_rows]
  rw [docPieces, pieceBraces_map, Template.docRows, List.flatMap_cons, List.flatMap_append,
    List.flatMap_map, hrows]
  exact List.append_nil _

theorem braces_copies {indent separator tail : Text} (hi : braces indent = [])
    (hs : braces separator = []) (ht : braces tail = []) (items : List Text) :
    (Repetition.copies indent separator tail items).flatMap braces = items.flatMap braces := by
  fun_induction Repetition.copies indent separator tail items with
  | case1 => rfl
  | case2 item => simp [braces_append, hi, ht]
  | case3 item items _ ih => simp [braces_append, hi, hs, ih]

/-! ## Text without marks -/

/-- No brace and no dollar sign comes in with a declaration. -/
structure MarklessDeclaration (f : Declaration) : Prop where
  name : f.name.Markless
  comment : f.comment.Markless
  typeName : f.type.name.Markless
  importPath : ∀ path, f.type.importPath = some path → path.Markless

/-- No brace and no dollar sign comes in from outside. -/
structure Markless (style : Style) (d : Definition) (checksum : Option Text) : Prop where
  javaPackage : style.javaPackage.Markless
  runtime : style.runtime.Markless
  name : d.name.Markless
  comment : d.comment.Markless
  fields : ∀ f ∈ d.fields, MarklessDeclaration f
  members : ∀ enum ∈ d.enums, ∀ f ∈ enum, MarklessDeclaration f
  checksum : ∀ sum, checksum = some sum → sum.Markless

section Markless

variable {style : Style} {d : Definition} {checksum : Option Text} {f : Declaration} {cls : Text}

theorem MarklessDeclaration.plain (h : MarklessDeclaration f) : PlainDeclaration f :=
  ⟨h.name.dollar, h.comment.dollar, h.typeName.dollar,
    fun path hpath => (h.importPath path hpath).dollar⟩

theorem Markless.dollarFree (h : Markless style d checksum) : DollarFree style d checksum :=
  ⟨h.javaPackage.dollar, h.runtime.dollar, h.name.dollar, h.comment.dollar,
    fun f hf => (h.fields f hf).plain, fun enum henum f hf => (h.members enum henum f hf).plain,
    fun sum hsum => (h.checksum sum hsum).dollar⟩

theorem Markless.className (h : Markless style d checksum) :
    braces (Naming.className d.name) = [] :=
  Text.braces_eq_nil
    (Naming.not_mem_className (fun hx => absurd hx h.name.opening) (by decide) (by decide))
    (Naming.not_mem_className (fun hx => absurd hx h.name.closing) (by decide) (by decide))

theorem MarklessDeclaration.accessorName (h : MarklessDeclaration f) :
    braces (Naming.accessorName "with" f.name) = [] :=
  Text.braces_eq_nil (Naming.not_mem_accessorName (by decide) h.name.opening (by decide))
    (Naming.not_mem_accessorName (by decide) h.name.closing (by decide))

theorem braces_ofNat (n : ℕ) : braces (Text.ofNat n) = [] :=
  Text.braces_eq_nil (not_mem_ofNat (by decide) _) (not_mem_ofNat (by decide) _)

theorem braces_literal (t : Text) : braces (literal t) = braces t := by
  rw [literal, braces_append, braces_append]
  exact List.append_nil _

theorem level_declaration (h : MarklessDeclaration f) {text : Text} (ht : braces text = [])
    (n : ℕ) : Level (Filled.declarationPieces n text f) := by
  refine .of_eq_nil ?_
  rw [Filled.declarationPieces, pieceBraces_append, pieceBraces_cons, ht]
  split
  · rfl
  · rw [pieceBraces_docPieces, h.comment.braces]
    rfl

theorem braces_fieldText (h : MarklessDeclaration f) : braces (Filled.fieldText f) = [] := by
  unfold Filled.fieldText
  simp only
  split_ifs
  all_goals
    simp only [braces_append, h.name.braces, h.typeName.braces, braces_ofNat]
    rfl

/-- An accessor opens one brace and closes it. -/
theorem braces_accessorRows (h : MarklessDeclaration f) (hcls : braces cls = []) :
    braces (Text.unrows (Filled.accessorRows cls f)) = [U, D] := by
  have hparameter : braces (parameterType f) = [] := by
    unfold parameterType
    split
    · rw [braces_append, h.typeName.braces]; rfl
    · exact h.typeName.braces
  rw [braces_unrows]
  unfold Filled.accessorRows Filled.assignment Filled.sizeCheck
  split_ifs
  all_goals
    simp only [List.flatMap_cons, List.flatMap_append, List.flatMap_nil, braces_append,
      h.name.braces, h.accessorName, hparameter, hcls, braces_ofNat]
    rfl

theorem level_enumPieces {enum : List Declaration × ℕ}
    (h : ∀ f ∈ enum.1, MarklessDeclaration f) : Level (Filled.enumPieces enum) := by
  have hhead : braces (enumHead enum.2) = [U] := by
    unfold enumHead enumName
    split
    · rfl
    · simp only [braces_append, braces_ofNat]
      rfl
  have hmembers : Level (enum.1.flatMap fun f =>
      Filled.declarationPieces 2 (Filled.memberText f) f) := by
    refine .flatMap fun f hf => level_declaration (h f hf) ?_ 2
    rw [Filled.memberText, braces_append, (h f hf).name.braces]
    rfl
  have hblank : Level [(1, [])] := .of_eq_nil rfl
  exact hblank.append (hmembers.block hhead rfl 1 1)

theorem level_fieldPieces (h : Markless style d checksum) : Level (Filled.fieldPieces d) := by
  refine .append (.append ?_ ?_) ?_
  · exact .flatMap fun enum henum =>
      level_enumPieces (h.members enum.1 (List.fst_mem_of_mem_zipIdx henum))
  · split
    · exact .of_eq_nil rfl
    · exact .of_eq_nil rfl
  · exact .flatMap fun f hf =>
      level_declaration (h.fields f hf) (braces_fieldText (h.fields f hf)) 1

theorem level_methodRows {top items bottom : List Text} {separator tail : Text}
    (htop : top.flatMap braces = [U]) (hitems : ∀ x ∈ items, braces x = [])
    (hbottom : bottom.flatMap braces = [D]) (hs : braces separator = []) (ht : braces tail = [])
    (n : ℕ) : Level (Filled.atDepth n (Filled.methodRows top items bottom separator tail)) := by
  refine .of_eq_pair ?_
  rw [Filled.atDepth, pieceBraces_map, Filled.methodRows, List.flatMap_append,
    List.flatMap_append, htop, hbottom, braces_copies rfl hs ht,
    List.flatMap_eq_nil_iff.2 hitems]
  rfl

theorem braces_expressions (h : Markless style d checksum) :
    (∀ x ∈ d.fields.map hashExpression, braces x = []) ∧
      (∀ x ∈ d.fields.map equalsExpression, braces x = []) ∧
      ∀ x ∈ d.fields.map textExpression, braces x = [] := by
  simp only [List.forall_mem_map]
  refine ⟨fun f hf => ?_, fun f hf => ?_, fun f hf => ?_⟩
  · unfold hashExpression
    split
    · simp only [braces_append, (h.fields f hf).name.braces]; rfl
    · exact (h.fields f hf).name.braces
  · unfold equalsExpression
    split_ifs
    all_goals
      simp only [braces_append, (h.fields f hf).name.braces]
      rfl
  · unfold textExpression
    simp only [braces_append, braces_literal, (h.fields f hf).name.braces]
    rfl

theorem level_methodPieces (h : Markless style d checksum) :
    Level (Filled.methodPieces (Naming.className d.name) d) := by
  obtain ⟨hhash, hequals, htext⟩ := braces_expressions h
  have hcls := h.className
  have hblank : Level [(1, [])] := .of_eq_nil rfl
  refine .append (.flatMap fun f hf => ?_) ?_
  · refine .of_eq_pair ?_
    rw [pieceBraces_cons, pieceBraces_cons, braces_accessorRows (h.fields f hf) hcls]
    rfl
  · split
    · exact .of_eq_nil rfl
    · have hhashRows : Level (Filled.atDepth 1 (Filled.hashRows d)) :=
        level_methodRows rfl hhash rfl rfl rfl 1
      have hequalsRows :
          Level (Filled.atDepth 1 (Filled.equalsRows (Naming.className d.name) d)) := by
        refine level_methodRows ?_ hequals rfl rfl rfl 1
        simp only [List.flatMap_cons, List.flatMap_nil, braces_append, hcls]
        rfl
      have htextRows : Level (Filled.atDepth 1 (Filled.textRows d)) :=
        level_methodRows rfl htext rfl rfl rfl 1
      rw [Filled.atDepth, List.map_append, List.map_append]
      exact .append (hblank.append hhashRows |>.append (hblank.append hequalsRows))
        (hblank.append htextRows)

/-! ## The class as a block -/

/-- What stands above the row that opens the class. -/
def classTop (style : Style) (d : Definition) (checksum : Option Text) : List Piece :=
  Filled.atDepth 0 (Filled.headerRows d.name) ++ packagePieces style.javaPackage
    ++ importPieces style.runtime d ++ docPieces 0 (classComment d)
    ++ Filled.atDepth 0 (Filled.annotationRows (Naming.className d.name) d
      (Filled.sum? style checksum))

/-- What stands between the constant that holds the name of the message and the last row. -/
def classBody (d : Definition) : List Piece :=
  Filled.atDepth 1 (Filled.copyRows (Naming.className d.name)) ++ Filled.fieldPieces d
    ++ Filled.methodPieces (Naming.className d.name) d

theorem Markless.imports (h : Markless style d checksum) :
    ∀ path ∈ imports style.runtime d, braces path = [] := by
  intro path hpath
  rcases mem_imports hpath with (rfl | rfl) | hfixed | ⟨f, hf, himport⟩
  · rw [braces_append, h.runtime.braces]; rfl
  · rw [braces_append, h.runtime.braces]; rfl
  · exact Text.braces_eq_nil (Text.not_mem_of_all (by decide) hfixed)
      (Text.not_mem_of_all (by decide) hfixed)
  · exact ((h.fields f hf).importPath path himport).braces

theorem Markless.classComment (h : Markless style d checksum) :
    braces (classComment d) = [] := by
  unfold JavaClass.classComment
  split
  · simp only [braces_append, h.name.braces]; rfl
  · simp only [braces_append, h.name.braces, h.comment.braces]; rfl

/-- The only braces of the annotation stand around the names of the fields. -/
theorem braces_annotationItems (h : Markless style d checksum) :
    (Filled.annotationItems (Naming.className d.name) d (Filled.sum? style checksum)).flatMap
      braces = if 1 < d.fields.length then [U, D] else [] := by
  have hnames : braces (Text.join ", " (d.fields.map fun f => literal f.name)) = [] := by
    rw [Text.braces_join rfl, List.flatMap_eq_nil_iff, List.forall_mem_map]
    intro f hf
    rw [braces_literal, (h.fields f hf).name.braces]
  have hsum : ((Filled.sum? style checksum).map fun sum =>
      ("md5sum = " : Text) ++ literal sum).toList.flatMap braces = [] := by
    cases hs : Filled.sum? style checksum with
    | none => rfl
    | some sum =>
      have hmark := h.checksum sum (Option.filter_eq_some_iff.1 (sum?_eq_some hs)).1
      simp only [Option.map_some, Option.toList_some, List.flatMap_cons, List.flatMap_nil,
        braces_append, braces_literal, hmark.braces]
      rfl
  rw [Filled.annotationItems, List.flatMap_append, List.flatMap_cons, hsum]
  split
  · simp only [List.flatMap_cons, List.flatMap_nil, braces_append, hnames, h.className]
    rfl
  · simp only [List.flatMap_nil, braces_append, h.className]
    rfl

theorem level_annotationRows (h : Markless style d checksum) :
    Level (Filled.atDepth 0 (Filled.annotationRows (Naming.className d.name) d
      (Filled.sum? style checksum))) := by
  have hrows : pieceBraces (Filled.atDepth 0 (Filled.annotationRows (Naming.className d.name) d
      (Filled.sum? style checksum))) = if 1 < d.fields.length then [U, D] else [] := by
    rw [Filled.atDepth, pieceBraces_map, Filled.annotationRows, List.flatMap_cons,
      braces_copies rfl rfl rfl, braces_annotationItems h]
    rfl
  split at hrows
  · exact .of_eq_pair hrows
  · exact .of_eq_nil hrows

theorem level_classTop (h : Markless style d checksum) : Level (classTop style d checksum) := by
  have hheader : Level (Filled.atDepth 0 (Filled.headerRows d.name)) := by
    refine .of_eq_nil ?_
    rw [Filled.atDepth, pieceBraces_map, Filled.headerRows]
    simp only [List.flatMap_cons, List.flatMap_nil, braces_append, h.name.braces]
    rfl
  have hpackage : Level (packagePieces style.javaPackage) := by
    refine .of_eq_nil ?_
    rw [packagePieces, pieceBraces_cons, pieceBraces_cons, braces_append, braces_append,
      h.javaPackage.braces]
    rfl
  have himports : Level (importPieces style.runtime d) := by
    have hrows : ∀ path ∈ imports style.runtime d, braces (Template.importRow path) = [] := by
      intro path hpath
      unfold Template.importRow
      rw [braces_append, braces_append, h.imports path hpath]
      rfl
    refine .of_eq_nil ?_
    rw [importPieces, pieceBraces_append, pieceBraces, List.flatMap_map,
      List.flatMap_eq_nil_iff.2 hrows]
    rfl
  have hcomment : Level (docPieces 0 (classComment d)) :=
    .of_eq_nil (by rw [pieceBraces_docPieces, h.classComment])
  exact hheader.append hpackage |>.append himports |>.append hcomment |>.append (level_annotationRows h)

theorem level_copyRows {cls : Text} (hcls : braces cls = []) :
    Level (Filled.atDepth 1 (Filled.copyRows cls)) := by
  have hpair : Matched [U, D] := Matched.nil.nest
  have hbraces : pieceBraces (Filled.atDepth 1 (Filled.copyRows cls)) =
      U :: ([U, D] ++ [U, D]) ++ [D] := by
    rw [Filled.atDepth, pieceBraces_map, Filled.copyRows]
    simp only [List.flatMap_cons, List.flatMap_nil, braces_append, hcls]
    rfl
  rw [Level, hbraces]
  exact (hpair.append hpair).nest

theorem level_classBody (h : Markless style d checksum) : Level (classBody d) :=
  .append (.append (level_copyRows h.className) (level_fieldPieces h)) (level_methodPieces h)

end Markless

/-- A class is the block that its first row opens, below what stands above that row. -/
theorem textAround_eq (style : Style) (d : Definition) (checksum : Option Text) (constant : Text) :
    Filled.textAround style d checksum constant =
      Text.unrows ((classTop style d checksum).map shown)
        ++ '\n' :: Filled.headRow (Naming.className d.name)
        ++ '\n' :: Text.unrows ([] :: constant :: (classBody d).map shown) ++ "\n\x7d\n" := by
  have hrows :
      (Filled.before style d checksum).map shown ++ constant :: (Filled.after d).map shown =
        (classTop style d checksum).map shown ++ (([Filled.headRow (Naming.className d.name)]
          ++ [] :: constant :: (classBody d).map shown) ++ [closingRow]) := by
    simp only [Filled.before, Filled.after, classTop, classBody, List.map_append, List.map_cons,
      List.map_nil, List.append_assoc, List.cons_append, List.nil_append, shown,
      CodeWriter.shift_zero, CodeWriter.shift_nil]
  have htop : (classTop style d checksum).map shown ≠ [] := by
    simp [classTop, Filled.atDepth, Filled.headerRows]
  rw [Filled.textAround, hrows, Text.unrows_append htop (by simp),
    Text.unrows_append (by simp) (by simp), Text.unrows_append (by simp) (by simp),
    Text.unrows_singleton, Text.unrows_singleton]
  simp [closingRow]

/-- **The braces of every class match.** Where no brace and no dollar sign comes in from
outside, every class has a text in which no brace is closed before it is opened, and every brace
is closed. One line of it opens the class. The braces above this line are all closed, and the one
that it opens stays open up to the last line, which is nothing but a closing brace. -/
theorem render_braces_match (javaPackage runtime : Text) (dialect : Dialect) (files : FileTree)
    (d : Definition) (checksum : Option Text)
    (h : Markless (Style.packaged javaPackage runtime dialect files) d checksum) :
    let head := Filled.headRow (Naming.className d.name)
    ∃ text top inside,
      render (Style.packaged javaPackage runtime dialect files) d checksum = .ok text ∧
      (∀ p, p <+: text → p.count '}' ≤ p.count '{') ∧ text.count '{' = text.count '}' ∧
      text = top ++ '\n' :: head ++ '\n' :: inside ++ "\n\x7d\n" ∧
      top.count '{' = top.count '}' ∧
      ∀ p, top ++ '\n' :: head <+: p → p <+: top ++ '\n' :: head ++ ('\n' :: inside ++ ['\n']) →
        p.count '}' < p.count '{' := by
  intro head
  have hrender := render_eq_textAround ⟨files, rfl⟩ h.dollarFree
  rw [textAround_eq] at hrender
  set top := Text.unrows ((classTop _ d checksum).map shown)
  set inside := Text.unrows ([] :: ("    " ++ Filled.nameRow d.name) :: (classBody d).map shown)
    with hinside
  have htop : Text.Balanced top := by
    rw [Text.Balanced, braces_unrows_shown]
    exact level_classTop h
  have hbody : Text.Balanced ('\n' :: inside ++ ['\n']) := by
    have hname : braces ("    " ++ Filled.nameRow d.name) = [] := by
      unfold Filled.nameRow
      simp only [braces_append, h.name.braces]
      rfl
    have hsteps : braces ('\n' :: inside ++ ['\n']) = pieceBraces (classBody d) := by
      rw [Text.braces_append, Text.braces_feed_cons, hinside, braces_unrows, List.flatMap_cons,
        List.flatMap_cons, hname, ← braces_unrows, braces_unrows_shown]
      exact List.append_nil _
    rw [Text.Balanced, hsteps]
    exact level_classBody h
  have hhead : braces ('\n' :: head) = [U] := by
    rw [Text.braces_feed_cons]
    unfold head Filled.headRow
    simp only [braces_append, h.className]
    rfl
  have htext : Text.Balanced (top ++ '\n' :: head ++ '\n' :: inside ++ "\n\x7d\n") := by
    have hlast : braces "\x7d\n" = [D] := rfl
    have hclass := htop.append (hbody.block hhead hlast)
    simpa using hclass
  exact ⟨_, top, inside, hrender, fun p hp => htext.count_le hp, htext.count_eq, rfl,
    htop.count_eq, fun p hle hp => htop.count_lt hbody hhead hle hp⟩

theorem render_braces_match_pose :
    let style := Style.packaged "org.example" "id.jrosmessages" .ros1 ⟨[], []⟩
    let d : Definition :=
      { name := "geometry_msgs/Pose"
        comment := "Where it is"
        fields := [⟨"its_place", "float64[3]", ⟨.primitive, "double", none, .array 3⟩, [], "*/"⟩,
          ⟨"frame", "string", ⟨.basic, "StringMessage",
            some "id.jrosmessages.std_msgs.StringMessage", .single⟩, [], []⟩]
        enums := [[⟨"A", "int8", ⟨.primitive, "byte", none, .single⟩, "0", []⟩]] }
    Markless style d (some "5a") ∧
      ∃ text, render style d (some "5a") = .ok text ∧ text.count '{' = text.count '}' ∧
        "\n\x7d\n" <:+ text := by
  intro style d
  have hfree : Markless style d (some "5a") := by
    refine ⟨by decide, by decide, by decide, by decide, ?_, ?_, ?_⟩
    · intro f hf
      rcases List.mem_cons.1 hf with rfl | hf
      · exact ⟨by decide, by decide, by decide, by simp⟩
      · obtain rfl := List.mem_singleton.1 hf
        exact ⟨by decide, by decide, by decide, by rintro path ⟨⟩; decide⟩
    · intro enum henum f hf
      obtain rfl := List.mem_singleton.1 henum
      obtain rfl := List.mem_singleton.1 hf
      exact ⟨by decide, by decide, by decide, by simp⟩
    · rintro sum ⟨⟩
      decide
  obtain ⟨text, top, inside, hrender, -, hcount, htext, -⟩ := render_braces_match _ _ _ _ d _ hfree
  exact ⟨hfree, text, hrender, hcount, htext ▸ List.suffix_append _ _⟩

end JavaClass
end RosBindings

import RosBindings.Proofs.Text
import RosBindings.Template.Store

/-!
# What the packaged fragments write

* `render_plain`: a template without tags is written as it stands, whatever the context.
* `renderNode_each`: a loop over a given list writes its body once for each item, provided
  that the body leaves the loops around it alone.
* `packaged_plain`, `packaged_imports` and `packaged_javadoc` say what the sections of a
  class are written from. The last two are the only templates with tags in them.
-/

namespace RosBindings

namespace Template

/-! ## Templates without tags -/

/-- Whether no tag opens anywhere in a template, and its line breaks are line feeds. -/
def isPlain : Text → Bool
  | [] => true
  | c :: cs => c != '\r' && (tagAt? (c :: cs)).isNone && isPlain cs

theorem unifyBreaks_of_not_mem {t : Text} (h : '\r' ∉ t) : Text.unifyBreaks t = t := by
  induction t with
  | nil => rfl
  | cons c t ih =>
    rw [List.mem_cons, not_or] at h
    unfold Text.unifyBreaks
    split
    · cases ‹_ = []›
    · next heq => exact absurd (List.cons.inj heq).1.symm h.1
    · next heq =>
      obtain ⟨rfl, rfl⟩ := List.cons.inj heq
      rw [if_neg (Ne.symm h.1), ih h.2]

theorem lexFrom_plain {t : Text} (h : isPlain t = true) : lexFrom 0 t = t.map .char := by
  induction t with
  | nil => rfl
  | cons c t ih =>
    simp only [isPlain, Bool.and_eq_true, Option.isNone_iff_eq_none] at h
    rw [lexFrom, h.1.2]
    simp only [ih h.2, List.map_cons]

theorem not_mem_of_isPlain {t : Text} (h : isPlain t = true) : '\r' ∉ t := by
  induction t with
  | nil => simp
  | cons c t ih =>
    simp only [isPlain, Bool.and_eq_true, bne_iff_ne] at h
    rw [List.mem_cons, not_or]
    exact ⟨Ne.symm h.1.1, ih h.2⟩

theorem lex_plain {t : Text} (h : isPlain t = true) : lex t = t.map .char := by
  rw [lex, unifyBreaks_of_not_mem (not_mem_of_isPlain h), lexFrom_plain h]

theorem nest_chars (t : Text) : nest (t.map .char) = some (t.map .char, []) := by
  induction t with
  | nil => rfl
  | cons c t ih => rw [List.map_cons, nest, ih]; rfl

theorem parse_chars (t : Text) : parse (t.map .char) = .ok (t.map .char) := by
  have hfault : (t.map Token.char).findSome? Token.fault? = none := by
    simp [List.findSome?_eq_none_iff, Token.fault?]
  have hloop : (t.map Token.char).any Token.bindsLoop = false := by
    simp [List.any_eq_false, Token.bindsLoop]
  rw [parse, hfault, nest_chars, hloop]
  rfl

theorem namesItself_chars (t : Text) : namesItself (t.map .char) = false := by
  induction t with
  | nil => rfl
  | cons c t ih => exact ih

/-- Plain text opens no block, so a layout stays as deep as it is. -/
theorem fault?_nodes_chars (known : List Text) (blocks loops : ℕ) (l : Layout) (file t : Text) :
    (l.nodes known blocks loops (t.map .char)).fault? file = l.fault? file := by
  induction t generalizing l with
  | nil => rfl
  | cons c t ih =>
    rw [List.map_cons, Layout.nodes, ih, Layout.node, Layout.text]
    split <;> rfl

section

variable (context : Context) (scopes : Scopes) (loops : Loops)

theorem renderNodes_chars_append (t : Text) (nodes : List Node) :
    renderNodes context scopes loops (t.map .char ++ nodes) =
      (renderNodes context scopes loops nodes).map fun (ts, last) => (t ++ ts, last) := by
  induction t with
  | nil => cases h : renderNodes context scopes loops nodes <;> simp [h, Except.map]
  | cons c t ih =>
    rw [List.map_cons, List.cons_append, renderNodes]
    simp only [renderNode, ih]
    cases renderNodes context scopes loops nodes <;> rfl

theorem renderNodes_chars (t : Text) :
    renderNodes context scopes loops (t.map .char) = .ok (t, loops) := by
  have h := renderNodes_chars_append context scopes loops t []
  rw [List.append_nil] at h
  rw [h, renderNodes]
  simp [Except.map]

end

/-- **A template without tags is written as it stands**, less the line feeds at its end. -/
theorem render_plain {t : Text} (h : isPlain t = true) (file : Text) (context : Context) :
    render file t context = .ok (Text.trimEndBy (· == '\n') t) := by
  have hown : ownNames (t.map .char) = [] := by rw [ownNames, namesItself_chars]; rfl
  unfold render
  simp only [lex_plain h, parse_chars, hown, Layout.ofTemplate, fault?_nodes_chars]
  simp only [Layout.fault?, renderNodes_chars]
  rfl

/-! ## Loops -/

/-- A loop over listed texts makes its steps one after the other, as long as its body only
reads the loops. -/
theorem repeatBody_items (body : Meaning → Loops → Except Fault (Text × Loops)) (f : Text → Text)
    (outer : Loops) (total : ℕ) (hbody : ∀ t loops, body (.given (.text t)) loops = .ok (f t, loops))
    (ts : List Text) (made : ℕ) :
    repeatBody body outer.length ts.length
        (⟨.items (ts.map fun t => .given (.text t)), made, total⟩ :: outer) =
      .ok (ts.flatMap f, ⟨.items [], made + ts.length, total⟩ :: outer) := by
  induction ts generalizing made with
  | nil => rfl
  | cons t ts ih =>
    -- one step takes the first item and counts it, and the loops around it stay
    have hstep : Loops.advance
        (⟨.items ((t :: ts).map fun t => .given (.text t)), made, total⟩ :: outer) outer.length =
          some (.given (.text t),
            ⟨.items (ts.map fun t => .given (.text t)), made + 1, total⟩ :: outer) := by
      rw [List.map_cons, Loops.advance, if_neg (lt_irrefl _)]
    rw [List.length_cons, repeatBody, hstep]
    simp only [hbody, ih, Except.map, List.flatMap_cons]
    rw [Nat.add_right_comm, Nat.add_assoc]

/-- The scope of a loop's body for one item. -/
def itemScope (context : Context) (scopes : Scopes) (loops : Loops) (item : Text)
    (body : List Node) (m : Meaning) : Scope :=
  (loopNames item body).zipWith Binding.own [m, .loop loops.length]
    ++ (freshNames (loopNames item body ++ scopes.known) body).map (Binding.lookedUp context)

/-- **A loop writes its body once for each item.** -/
theorem renderNode_each {context : Context} {scopes : Scopes} {loops : Loops} {item list : Text}
    {body : List Node} {ts : List Text} (f : Text → Text)
    (hread : scopes.read list = .ok (.given (.list ts)))
    (hbody : ∀ t loops', renderNodes context
      (itemScope context scopes loops item body (.given (.text t)) :: scopes) loops' body =
        .ok (f t, loops')) :
    renderNode context scopes loops (.each item list body) = .ok (ts.flatMap f, loops) := by
  have hremaining : Loops.remaining
      (⟨.items (ts.map fun t => .given (.text t)), 0, ts.length⟩ :: loops) loops.length =
        ts.length := by
    rw [Loops.remaining, if_neg (lt_irrefl _)]
    exact List.length_map _
  simp only [renderNode, hread, Meaning.start, Value.items, hremaining]
  rw [repeatBody_items _ f loops ts.length hbody ts 0]
  rfl

/-! ## The templates with tags -/

/-- A row of a documentation comment; an empty one has no blank behind its star. -/
def docRow (row : Text) : Text := if row.isEmpty then " *" else " * " ++ row

/-- The rows of a documentation comment with its delimiters. -/
def docRows (rows : List Text) : List Text := "/**" :: (rows.map docRow ++ [(" */" : Text)])

/-- The body of the loop over the rows of a documentation comment. -/
def docBody : List Node :=
  [.char ' ', .char '*', .when "line" [.char ' ', .value "line"], .char '\n']

/-- The template of a documentation comment as a tree. -/
def docNodes : List Node :=
  ("/**\n" : Text).map .char ++ .each "line" "lines" docBody :: (" */\n" : Text).map .char

theorem lex_javadoc : lex (Fragment.source .javadoc) =
    ("/**\n" : Text).map Token.char
      ++ [.each "line" "lines", .char ' ', .char '*', .when "line", .char ' ', .value "line",
        .endWhen, .char '\n', .endEach]
      ++ (" */\n" : Text).map Token.char := by
  decide +kernel

theorem renderNodes_docBody {context : Context} {scopes : Scopes} {t : Text}
    (hread : scopes.read "line" = .ok (.given (.text t))) (loops : Loops) :
    renderNodes context scopes loops docBody = .ok (docRow t ++ ['\n'], loops) := by
  simp only [docBody, renderNodes, renderNode, hread]
  cases t with
  | nil => rfl
  | cons c t => simp [Meaning.holds, Value.holds, Meaning.shown, Value.shown, Except.map, docRow]

/-- The rows of a documentation comment are written one by one between its delimiters. -/
theorem render_javadoc (file : Text) (rows : List Text) :
    render file (Fragment.source .javadoc) [("lines", .list rows)] =
      .ok (Text.unrows (docRows rows)) := by
  have hparse : parse (lex (Fragment.source .javadoc)) = .ok docNodes := by rw [lex_javadoc]; rfl
  have hown : ownNames (lex (Fragment.source .javadoc)) = [] := by rw [lex_javadoc]; rfl
  -- the layout does not depend on the rows, so it is evaluated once and for all
  have hdeep : (Layout.ofTemplate [] docNodes).deep = none := by decide +kernel
  have hloop : (Layout.ofTemplate [] docNodes).loop = none := by decide +kernel
  have heach : renderNode [("lines", .list rows)] [wholeScope file [] [("lines", .list rows)] docNodes]
      [] (.each "line" "lines" docBody) = .ok (rows.flatMap fun t => docRow t ++ ['\n'], []) :=
    renderNode_each _ rfl fun t loops' => renderNodes_docBody rfl loops'
  unfold render
  simp only [hparse, hown, Layout.fault?, hdeep, hloop]
  rw [show docNodes = ("/**\n" : Text).map .char ++ .each "line" "lines" docBody ::
    (" */\n" : Text).map .char from rfl] at heach ⊢
  rw [renderNodes_chars_append, renderNodes, heach]
  simp only [renderNodes_chars, Except.map]
  -- what is left is that only the line feed at the very end is dropped
  have hrows : Text.unrows (docRows rows) =
      ("/**\n" : Text) ++ (rows.flatMap fun t => docRow t ++ ['\n']) ++ " *" ++ ['/'] := by
    rw [docRows, ← List.cons_append, Text.unrows_concat, List.flatMap_cons, List.flatMap_map]
    simp only [List.append_assoc]
    rfl
  rw [hrows, ← Text.trimEndBy_concat (p := (· == '\n')) (x := '\n') (by decide) (by decide)]
  simp only [List.append_assoc]
  rfl

/-- The row of an import. -/
def importRow (path : Text) : Text := "import " ++ path ++ ";"

/-- The body of the loop over the imports. -/
def importBody : List Node :=
  ("import " : Text).map .char ++ [.value "path", .char ';', .char '\n']

theorem lex_imports : lex (Fragment.source .imports) =
    [.each "path" "imports"] ++ ("import " : Text).map Token.char
      ++ [.value "path", .char ';', .char '\n', .endEach] := by
  decide +kernel

theorem renderNodes_importBody {context : Context} {scopes : Scopes} {t : Text}
    (hread : scopes.read "path" = .ok (.given (.text t))) (loops : Loops) :
    renderNodes context scopes loops importBody = .ok (importRow t ++ ['\n'], loops) := by
  unfold importBody
  rw [renderNodes_chars_append]
  simp only [renderNodes, renderNode, hread, Except.map, Meaning.shown, Value.shown]
  unfold importRow
  simp

/-- The imports are written one by one. -/
theorem render_imports (file : Text) (paths : List Text) :
    render file (Fragment.source .imports) [("imports", .list paths)] =
      .ok (Text.unrows (paths.map importRow)) := by
  have hparse : parse (lex (Fragment.source .imports)) = .ok [.each "path" "imports" importBody] := by
    rw [lex_imports]; rfl
  have hown : ownNames (lex (Fragment.source .imports)) = [] := by rw [lex_imports]; rfl
  have hdeep : (Layout.ofTemplate [] [.each "path" "imports" importBody]).deep = none := by
    decide +kernel
  have hloop : (Layout.ofTemplate [] [.each "path" "imports" importBody]).loop = none := by
    decide +kernel
  have heach : renderNode [("imports", .list paths)]
      [wholeScope file [] [("imports", .list paths)] [.each "path" "imports" importBody]]
      [] (.each "path" "imports" importBody) =
        .ok (paths.flatMap fun t => importRow t ++ ['\n'], []) :=
    renderNode_each _ rfl fun t loops' => renderNodes_importBody rfl loops'
  unfold render
  simp only [hparse, hown, Layout.fault?, hdeep, hloop]
  rw [renderNodes, heach]
  simp only [renderNodes, Except.map, List.append_nil]
  -- the line feed that is dropped is the one behind the last import
  rcases List.eq_nil_or_concat' paths with rfl | ⟨qs, q, rfl⟩
  · rfl
  · rw [List.map_append, List.map_singleton, Text.unrows_concat, List.flatMap_append,
      List.flatMap_singleton, List.flatMap_map]
    have htext : ((qs.flatMap fun t => importRow t ++ ['\n']) ++ (importRow q ++ ['\n'])) =
        (qs.flatMap fun t => importRow t ++ ['\n']) ++ "import " ++ q ++ [';', '\n'] := by
      unfold importRow
      simp
    rw [htext, Text.trimEndBy_concat (by decide) (by decide)]
    unfold importRow
    simp

end Template

namespace TemplateStore

/-! ## The packaged templates -/

theorem packagedSource?_name (f : Fragment) :
    packagedSource? (f.name ++ Fragment.extension) = some f.source := by
  have hsegments : segments? (f.name ++ Fragment.extension) =
      some [f.name ++ Fragment.extension] := by
    cases f <;> decide +kernel
  have hfind : (Fragment.all.find? fun g => g.name ++ Fragment.extension =
      f.name ++ Fragment.extension) = some f := by
    cases f <;> decide +kernel
  rw [packagedSource?, hsegments]
  simp only [hfind, Option.map_some]

theorem fragments_packaged (files : FileTree) (f : Fragment) (context : Template.Context)
    {t : Text} (h : ∀ file, Template.render file f.source context = .ok t) :
    packaged.fragments files f context = .ok t := by
  simp only [fragments, render, source, packagedSource?_name, h]

/-- **A section without tags** is its packaged template. -/
theorem packaged_plain (files : FileTree) {f : Fragment} (hi : f ≠ .imports) (hd : f ≠ .javadoc) :
    packaged.fragments files f [] = .ok (Text.unrows f.rows) := by
  have hplain : Template.isPlain f.source = true := by
    cases f <;> first | decide +kernel | contradiction
  have htrim : Text.trimEndBy (· == '\n') f.source = Text.unrows f.rows := by
    cases f <;> decide +kernel
  exact fragments_packaged files f [] fun file => by
    rw [Template.render_plain hplain, htrim]

theorem packaged_imports (files : FileTree) (paths : List Text) :
    packaged.fragments files .imports [("imports", .list paths)] =
      .ok (Text.unrows (paths.map Template.importRow)) :=
  fragments_packaged files _ _ fun file => Template.render_imports file paths

theorem packaged_javadoc (files : FileTree) (rows : List Text) :
    packaged.fragments files .javadoc [("lines", .list rows)] =
      .ok (Text.unrows (Template.docRows rows)) :=
  fragments_packaged files _ _ fun file => Template.render_javadoc file rows

end TemplateStore

end RosBindings

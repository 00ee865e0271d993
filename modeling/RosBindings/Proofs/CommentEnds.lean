import RosBindings.Proofs.Comments

/-!
# Where comments end

A comment of a class is to end where it is closed, and not before. Lines of documentation
comments have their ends of comments escaped. The name of the message stands in the first
comment as it is, and the values of the class are put in after the escaping, so both can bring
in an end of a comment.

* `InOrder`: blocks that stand in a text one after the other.
* `commentBlocks` are the comments of a class, and `inOrder_commentBlocks` finds them in its
  text.
* `Harmless` values are those that complete no end of a comment wherever they are put in.
* `render_comments_end`: which classes have comments that all end where they are closed, and
  which names and checksums allow for no others.
-/

namespace RosBindings

/-! ## Blocks in a text -/

/-- The blocks stand in the text one after the other, in their order. -/
inductive InOrder {α : Type} : List (List α) → List α → Prop
  | nil (t : List α) : InOrder [] t
  | cons (gap b : List α) {bs : List (List α)} {rest : List α} (h : InOrder bs rest) :
    InOrder (b :: bs) (gap ++ b ++ rest)

namespace InOrder

variable {α β : Type} {bs cs : List (List α)} {t u : List α}

theorem single (b : List α) : InOrder [b] b := by
  have h := cons [] b (nil [])
  rwa [List.nil_append, List.append_nil] at h

theorem prepend (h : InOrder bs t) (u : List α) : InOrder bs (u ++ t) := by
  cases h with
  | nil => exact nil _
  | cons gap b h =>
    rw [← List.append_assoc, ← List.append_assoc]
    exact cons (u ++ gap) b h

theorem append (h : InOrder bs t) (h' : InOrder cs u) : InOrder (bs ++ cs) (t ++ u) := by
  induction h with
  | nil t => exact h'.prepend t
  | cons gap b _ ih =>
    rw [List.append_assoc]
    exact cons gap b ih

theorem extend (h : InOrder bs t) (u : List α) : InOrder bs (t ++ u) := by
  have h' := h.append (nil u)
  rwa [List.append_nil] at h'

theorem flatMap {xs : List β} {g : β → List (List α)} {k : β → List α}
    (h : ∀ x ∈ xs, InOrder (g x) (k x)) : InOrder (xs.flatMap g) (xs.flatMap k) := by
  induction xs with
  | nil => exact nil _
  | cons x xs ih =>
    rw [List.forall_mem_cons] at h
    rw [List.flatMap_cons, List.flatMap_cons]
    exact h.1.append (ih h.2)

theorem infix_of_mem (h : InOrder bs t) {b : List α} (hb : b ∈ bs) : b <:+: t := by
  induction h with
  | nil => cases hb
  | cons gap c _ ih =>
    rcases List.mem_cons.1 hb with rfl | hb
    · exact List.infix_append _ _ _
    · exact (ih hb).trans (List.suffix_append _ _).isInfix

/-- Blocks of rows become blocks of the text that the rows make. -/
theorem unrows {bs : List (List Text)} {rs : List Text} (h : InOrder bs rs)
    (hne : ∀ b ∈ bs, b ≠ []) : InOrder (bs.map Text.unrows) (Text.unrows rs) := by
  induction h with
  | nil => exact nil _
  | @cons gap b bs rest _ ih =>
    rw [List.forall_mem_cons] at hne
    have hrest : InOrder ((b :: bs).map Text.unrows) (Text.unrows (b ++ rest)) := by
      rcases rest with _ | ⟨r, rest⟩
      · have h' := cons [] (Text.unrows b) (ih hne.2)
        simpa using h'
      · have h' := cons [] (Text.unrows b) ((ih hne.2).prepend ['\n'])
        rw [Text.unrows_append hne.1 (by simp)]
        simpa using h'
    rw [List.append_assoc]
    rcases gap with _ | ⟨r, gap⟩
    · exact hrest
    · rw [Text.unrows_append (by simp) (by simp [hne.1])]
      exact (hrest.prepend ['\n']).prepend (Text.unrows (r :: gap))

end InOrder

namespace JavaClass

open CodeWriter (pad shift shown)
open Placeholder (substitute written)
open Template (docRow)

variable {style : Style} {d : Definition} {checksum : Option Text} {v : Bindings} {n : ℕ}
  {t u value : Text}

/-! ## Ends of comments -/

/-- What ends a comment. -/
def commentEnd : Text := ['*', '/']

theorem commentEnd_infix_cons {c : Char} :
    commentEnd <:+: c :: t ↔ (c = '*' ∧ t.head? = some '/') ∨ commentEnd <:+: t := by
  rw [List.infix_cons_iff, commentEnd, List.cons_prefix_cons]
  rcases t with _ | ⟨x, t⟩
  · simp
  · simp [eq_comm]

theorem commentEnd_infix_append :
    commentEnd <:+: t ++ u ↔ commentEnd <:+: t ∨ commentEnd <:+: u ∨
      (t.getLast? = some '*' ∧ u.head? = some '/') := by
  induction t with
  | nil => simp [commentEnd]
  | cons c t ih =>
    rw [List.cons_append, commentEnd_infix_cons, commentEnd_infix_cons, ih]
    rcases t with _ | ⟨x, t⟩
    · simp [commentEnd, or_comm]
    · simp [or_assoc, List.getLast?_cons_cons]

/-- Text that neither holds the end of a comment nor starts one may stand in front. -/
theorem commentEnd_infix_append_left (ht : ¬ commentEnd <:+: t) (hstar : t.getLast? ≠ some '*') :
    commentEnd <:+: t ++ u ↔ commentEnd <:+: u := by
  simp only [commentEnd_infix_append, ht, hstar, false_or, false_and, or_false]

theorem commentEnd_infix_append_right (hu : ¬ commentEnd <:+: u) (hslash : u.head? ≠ some '/') :
    commentEnd <:+: t ++ u ↔ commentEnd <:+: t := by
  simp only [commentEnd_infix_append, hu, hslash, and_false, or_false]

theorem commentEnd_not_infix_of_not_mem {x : Char} (hx : x ∈ commentEnd) (h : x ∉ t) :
    ¬ commentEnd <:+: t := fun hend => h (hend.subset hx)

/-- An end of a comment does not go across a line feed. -/
theorem commentEnd_infix_unrows {rs : List Text} :
    commentEnd <:+: Text.unrows rs ↔ ∃ r ∈ rs, commentEnd <:+: r := by
  induction rs with
  | nil => simp [commentEnd]
  | cons r rs ih =>
    rcases rs with _ | ⟨s, rs⟩
    · simp
    · rw [Text.unrows_cons_cons, commentEnd_infix_append, commentEnd_infix_cons, ih,
        List.exists_mem_cons_iff]
      simp

theorem head?_escapeEnd (t : Text) : (escapeEnd t).head? = t.head? := by
  fun_cases escapeEnd t <;> simp

/-- **No end of a comment is left by the escaping.** -/
theorem commentEnd_not_infix_escapeEnd (t : Text) : ¬ commentEnd <:+: escapeEnd t := by
  fun_induction escapeEnd t with
  | case1 => simp [commentEnd]
  | case2 cs ih =>
    have hslash : ¬ commentEnd <:+: ("*&#47;" : Text) :=
      commentEnd_not_infix_of_not_mem (x := '/') (by decide) (by decide)
    rw [commentEnd_infix_append_left hslash (by decide)]
    exact ih
  | case3 c cs hend ih =>
    rw [commentEnd_infix_cons, not_or, head?_escapeEnd]
    refine ⟨?_, ih⟩
    rintro ⟨rfl, hslash⟩
    obtain ⟨rest, rfl⟩ := List.head?_eq_some_iff.1 hslash
    exact hend rest rfl rfl

theorem escapeEnd_eq_self (h : ¬ commentEnd <:+: t) : escapeEnd t = t := by
  fun_induction escapeEnd t with
  | case1 => rfl
  | case2 cs _ => exact absurd (List.prefix_append commentEnd cs).isInfix h
  | case3 c cs _ ih => rw [ih fun hend => h (hend.trans (List.suffix_cons c cs).isInfix)]

/-- A comment that ends where it is closed, and not before. -/
structure EndsOnce (block : Text) : Prop where
  ends : commentEnd <:+ block
  once : ¬ commentEnd <:+: block.dropLast

/-- A comment ends once if no row above its last one ends it. -/
theorem endsOnce_iff {rs : List Text} {last : Text} (hl : '*' ∉ last) :
    EndsOnce (Text.unrows (rs ++ [last ++ commentEnd])) ↔ ∀ r ∈ rs, ¬ commentEnd <:+: r := by
  have hdrop : (Text.unrows (rs ++ [last ++ commentEnd])).dropLast =
      Text.unrows (rs ++ [last ++ ['*']]) := by
    rw [Text.unrows_concat, Text.unrows_concat, commentEnd,
      List.dropLast_append_of_ne_nil (by simp), List.dropLast_append_of_ne_nil (by simp)]
    rfl
  have hlast : ¬ commentEnd <:+: last ++ ['*'] := by
    rw [commentEnd_infix_append, not_or, not_or]
    exact ⟨commentEnd_not_infix_of_not_mem (by decide) hl,
      commentEnd_not_infix_of_not_mem (x := '/') (by decide) (by decide),
      fun h => absurd h.2 (by decide)⟩
  have honce : (¬ commentEnd <:+: (Text.unrows (rs ++ [last ++ commentEnd])).dropLast) ↔
      ∀ r ∈ rs, ¬ commentEnd <:+: r := by
    rw [hdrop, commentEnd_infix_unrows]
    simp [hlast]
  refine ⟨fun h => honce.1 h.once, fun h => ⟨?_, honce.2 h⟩⟩
  rw [Text.unrows_concat, ← List.append_assoc]
  exact List.suffix_append _ _

/-! ## Values put in after the escaping -/

/-- A value that completes no end of a comment wherever it is put in. -/
structure Harmless (value : Text) : Prop where
  ne_nil : value ≠ []
  noSlash : value.head? ≠ some '/'
  noEnd : ¬ commentEnd <:+: value
  noStar : value.getLast? ≠ some '*'

theorem harmless_iff : Harmless value ↔ ¬ commentEnd <:+: '*' :: value ++ ['/'] := by
  have hends : commentEnd <:+: '*' :: value ++ ['/'] ↔ value = [] ∨ value.head? = some '/' ∨
      commentEnd <:+: value ∨ value.getLast? = some '*' := by
    have hslash : ¬ commentEnd <:+: ['/'] :=
      commentEnd_not_infix_of_not_mem (x := '*') (by decide) (by decide)
    rw [commentEnd_infix_append, commentEnd_infix_cons]
    rcases value with _ | ⟨c, value⟩
    · simp
    · rw [List.getLast?_cons_cons]
      simp only [hslash, true_and, and_true, false_or, List.head?_cons, reduceCtorEq, or_assoc]
  rw [hends, not_or, not_or, not_or]
  exact ⟨fun h => ⟨h.ne_nil, h.noSlash, h.noEnd, h.noStar⟩,
    fun h => ⟨h.1, h.2.1, h.2.2.1, h.2.2.2⟩⟩

/-- A placeholder that has no value stays, and completes no end. -/
theorem harmless_written {key : Text} (hk : Placeholder.isKey key = true) :
    Harmless (written key) := by
  have hkey : '*' ∉ key := fun hx => absurd (Placeholder.isKeyChar_of_mem hk hx) (by decide)
  have hlast : (written key).getLast? = some '}' := by
    rw [written, List.getLast?_concat]
  have hstar : '*' ∉ written key := by simp [written, hkey]
  refine ⟨by simp [written], by simp [written],
    commentEnd_not_infix_of_not_mem (by decide) hstar, ?_⟩
  rw [hlast]
  decide

/-- **Harmless values complete no end of a comment.** Nor do they put a slash in front, which
could complete one together with what stands before the text. -/
theorem substitute_harmless (hv : ∀ key value, v.lookup key = some value → Harmless value)
    (ht : ¬ commentEnd <:+: t) :
    ¬ commentEnd <:+: substitute v t ∧
      ((substitute v t).head? = some '/' → t.head? = some '/') := by
  induction t using Placeholder.scan_induction with
  | nil =>
    rw [Placeholder.substitute_nil]
    exact ⟨ht, id⟩
  | key key r hk ih =>
    obtain ⟨hend, -⟩ := ih fun h => ht (h.trans (List.suffix_append _ _).isInfix)
    have hvalue : Harmless ((v.lookup key).getD (written key)) := by
      cases hlookup : v.lookup key with
      | none => exact harmless_written hk
      | some value => exact hv key value hlookup
    rw [Placeholder.substitute_written_append hk, commentEnd_infix_append, not_or, not_or]
    refine ⟨⟨hvalue.noEnd, hend, fun h => hvalue.noStar h.1⟩, fun h => ?_⟩
    rw [List.head?_append_of_ne_nil _ hvalue.ne_nil] at h
    exact absurd h hvalue.noSlash
  | char c t hnone ih =>
    rw [commentEnd_infix_cons, not_or] at ht
    obtain ⟨hend, hhead⟩ := ih ht.2
    rw [Placeholder.substitute_cons_of_none hnone, commentEnd_infix_cons, not_or]
    exact ⟨⟨fun h => ht.1 ⟨h.1, hhead h.2⟩, hend⟩, id⟩

/-- Between a star and a slash, a harmful value ends a comment. -/
theorem harmless_of_forall {key : Text} (hk : Placeholder.isKey key = true)
    (hv : v.lookup key = some value)
    (h : ∀ line : Text, '\n' ∉ line → ¬ commentEnd <:+: substitute v (escapeEnd line)) :
    Harmless value := by
  have hkey : ∀ x, Placeholder.isKeyChar x = false → x ∉ key := by
    intro x hx hmem
    rw [Placeholder.isKeyChar_of_mem hk hmem] at hx
    cases hx
  have hfeed : '\n' ∉ '*' :: written key ++ ['/'] := by
    simp [written, hkey '\n' (by decide)]
  have hesc := escapeEnd_eq_self (harmless_iff.1 (harmless_written hk))
  have hline := h _ hfeed
  rw [hesc, List.cons_append, Placeholder.substitute_cons_of_ne (by decide),
    Placeholder.substitute_written_append hk, hv, Option.getD_some,
    Placeholder.substitute_plain (by decide)] at hline
  exact harmless_iff.2 hline

theorem harmless_className (name : Text) : Harmless (Naming.className name) := by
  have hslash : '/' ∉ Naming.className name := Naming.slash_not_mem_className name
  have hlast : (Naming.className name).getLast? = some 'e' := by
    rw [Naming.className, List.getLast?_append_of_ne_nil _ (by decide)]
    decide
  refine ⟨?_, fun h => hslash (List.mem_of_mem_head? h), fun h => ?_, by rw [hlast]; decide⟩
  · intro hnil
    rw [hnil] at hlast
    cases hlast
  · exact hslash (h.subset (List.mem_cons_of_mem _ List.mem_cons_self))

/-- The values of a class are harmless if its name and its checksum are. -/
theorem classValues_harmless_iff :
    (∀ key value, (classValues d checksum).lookup key = some value → Harmless value) ↔
      Harmless d.name ∧ ∀ sum, checksum.filter (!·.isEmpty) = some sum → Harmless sum := by
  constructor
  · intro h
    exact ⟨h _ _ (lookup_msgName d checksum), fun sum hsum => h _ _ (lookup_md5sum d checksum hsum)⟩
  · rintro ⟨hname, hsum⟩ key value hv
    rcases of_lookup_classValues hv with ⟨-, rfl⟩ | ⟨-, hvalue⟩ | ⟨-, rfl⟩
    · exact harmless_className d.name
    · exact hsum value hvalue
    · exact hname

/-! ## The comments of a class -/

/-- The rows of a documentation comment as they stand in a class. -/
def docLines (v : Bindings) (n : ℕ) (t : Text) : List Text :=
  (pad n ++ "/**") :: ((Text.rows t).map (fun l => pad n ++ shownLine v l)
    ++ [pad n ++ (" */" : Text)])

/-- The comment of a declaration, if it has one. -/
def declarationDoc (v : Bindings) (n : ℕ) (f : Declaration) : List (List Text) :=
  if f.comment.isEmpty then [] else [docLines v n f.comment]

/-- The comments of a class by their rows: that of the file, that of the class, those of the
members of enumerations and those of the fields. -/
def commentRows (d : Definition) (checksum : Option Text) : List (List Text) :=
  let v := classValues d checksum
  Filled.headerRows d.name :: docLines v 0 (classComment d)
    :: d.enums.flatMap (·.flatMap (declarationDoc v 2)) ++ d.fields.flatMap (declarationDoc v 1)

/-- The comments of a class as they stand in its text. -/
def commentBlocks (d : Definition) (checksum : Option Text) : List Text :=
  (commentRows d checksum).map Text.unrows

/-- The texts of the documentation comments. -/
def docTexts (d : Definition) : List Text :=
  classComment d :: d.enums.flatMap (·.map Declaration.comment) ++ d.fields.map Declaration.comment

/-- The comments stand in the pieces, once the values are put in. -/
def Holds (v : Bindings) (bs : List (List Text)) (ps : List Piece) : Prop :=
  InOrder bs (ps.map fun p => substitute v (shown p))

namespace Holds

variable {bs cs : List (List Text)} {ps qs : List Piece}

theorem append (h : Holds v bs ps) (h' : Holds v cs qs) : Holds v (bs ++ cs) (ps ++ qs) := by
  rw [Holds, List.map_append]
  exact InOrder.append h h'

theorem prepend (h : Holds v bs ps) (qs : List Piece) : Holds v bs (qs ++ ps) := by
  rw [Holds, List.map_append]
  exact InOrder.prepend h _

theorem extend (h : Holds v bs ps) (qs : List Piece) : Holds v bs (ps ++ qs) := by
  rw [Holds, List.map_append]
  exact InOrder.extend h _

theorem flatMap {α : Type} {xs : List α} {g : α → List (List Text)} {k : α → List Piece}
    (h : ∀ x ∈ xs, Holds v (g x) (k x)) : Holds v (xs.flatMap g) (xs.flatMap k) := by
  rw [Holds, List.map_flatMap]
  exact InOrder.flatMap h

end Holds

theorem holds_docPieces (v : Bindings) (n : ℕ) (t : Text) :
    Holds v [docLines v n t] (docPieces n t) := by
  rw [Holds, map_docPieces]
  exact .single _

theorem holds_declaration (text : Text) (f : Declaration) :
    Holds v (declarationDoc v n f) (Filled.declarationPieces n text f) := by
  rw [declarationDoc, Filled.declarationPieces]
  split
  · exact .nil _
  · exact (holds_docPieces v n f.comment).extend _

theorem holds_fieldPieces (v : Bindings) (d : Definition) :
    Holds v (d.enums.flatMap (·.flatMap (declarationDoc v 2))
      ++ d.fields.flatMap (declarationDoc v 1)) (Filled.fieldPieces d) := by
  have henums : Holds v (d.enums.zipIdx.flatMap fun enum => enum.1.flatMap (declarationDoc v 2))
      (d.enums.zipIdx.flatMap Filled.enumPieces) := by
    refine .flatMap fun enum _ => ?_
    rw [Filled.enumPieces]
    exact (Holds.prepend (.flatMap fun f _ => holds_declaration _ f) _).extend _
  rw [flatMap_zipIdx fun enum : List Declaration => enum.flatMap (declarationDoc v 2)] at henums
  rw [Filled.fieldPieces]
  exact (henums.extend _).append (.flatMap fun f _ => holds_declaration _ f)

theorem holds_classPieces (style : Style) (d : Definition) (checksum : Option Text) :
    Holds (classValues d checksum) (commentRows d checksum) (classPieces style d checksum) := by
  have hheader : Holds (classValues d checksum) [Filled.headerRows d.name]
      (fragmentPieces 0 .header) := by
    rw [Holds, map_header, map_shown_zero]
    exact .single _
  have hdoc := holds_docPieces (classValues d checksum) 0 (classComment d)
  have hfields := holds_fieldPieces (classValues d checksum) d
  rw [classPieces, bodyPieces, fieldPieces_eq]
  exact (((((hheader.extend _).extend _).append hdoc).extend _).extend _).append
    ((((hfields.extend _).extend _).extend _).extend _) |>.extend _

/-- What holds of every comment of a class. -/
theorem forall_commentRows {P : List Text → Prop} :
    (∀ b ∈ commentRows d checksum, P b) ↔
      P (Filled.headerRows d.name) ∧ P (docLines (classValues d checksum) 0 (classComment d)) ∧
      (∀ enum ∈ d.enums, ∀ f ∈ enum, f.comment ≠ [] →
        P (docLines (classValues d checksum) 2 f.comment)) ∧
      ∀ f ∈ d.fields, f.comment ≠ [] → P (docLines (classValues d checksum) 1 f.comment) := by
  have hdoc : ∀ n f, (∀ b ∈ declarationDoc (classValues d checksum) n f, P b) ↔
      (f.comment ≠ [] → P (docLines (classValues d checksum) n f.comment)) := by
    intro n f
    unfold declarationDoc
    split
    · next hnil => simp [List.isEmpty_iff.1 hnil]
    · next hne => simp [List.isEmpty_iff.not.1 hne]
  simp only [commentRows, List.cons_append, List.forall_mem_cons, List.forall_mem_append,
    List.forall_mem_flatMap, hdoc]

/-- **The comments stand in the class in their order.** -/
theorem inOrder_commentBlocks (style : Style) (d : Definition) (checksum : Option Text) :
    InOrder (commentBlocks d checksum) (classText style d checksum) := by
  have hne : ∀ b ∈ commentRows d checksum, b ≠ [] := by
    rw [forall_commentRows]
    simp [Filled.headerRows, docLines]
  exact (InOrder.unrows (holds_classPieces style d checksum) hne).extend _

/-! ## Where they end -/

theorem commentEnd_not_infix_star : ¬ commentEnd <:+: (" *" : Text) :=
  commentEnd_not_infix_of_not_mem (x := '/') (by decide) (by decide)

theorem commentEnd_infix_star_append (t : Text) :
    commentEnd <:+: (" * " : Text) ++ t ↔ commentEnd <:+: t :=
  commentEnd_infix_append_left
    (commentEnd_not_infix_of_not_mem (x := '/') (by decide) (by decide)) (by decide)

theorem commentEnd_infix_shownLine (v : Bindings) (line : Text) :
    commentEnd <:+: shownLine v line ↔ commentEnd <:+: substitute v (escapeEnd line) := by
  unfold shownLine docRow
  split
  · next hnil =>
    rw [List.isEmpty_iff.1 hnil, Placeholder.substitute_nil,
      Placeholder.substitute_plain (by decide)]
    exact iff_of_false commentEnd_not_infix_star (by simp [commentEnd])
  · rw [Placeholder.substitute_plain_append (by decide), commentEnd_infix_star_append]

/-- A line without the placeholders of the class ends no comment. -/
theorem commentEnd_not_infix_shownLine {line : Text}
    (h : ∀ key ∈ classKeys checksum, ¬ written key <:+: line) :
    ¬ commentEnd <:+: shownLine (classValues d checksum) line := by
  rw [commentEnd_infix_shownLine, (substitute_docRow _ _).1 (shownLine_eq h)]
  exact commentEnd_not_infix_escapeEnd line

theorem endsOnce_header (name : Text) :
    EndsOnce (Text.unrows (Filled.headerRows name)) ↔ ¬ commentEnd <:+: name := by
  have hopen : ¬ commentEnd <:+: ("/*" : Text) := by decide
  have htitle : ¬ commentEnd <:+:
      (" * Generated by msgmonster from the ROS message definition " : Text) :=
    commentEnd_not_infix_of_not_mem (x := '/') (by decide) (by decide)
  have hstop : ¬ commentEnd <:+: ("." : Text) :=
    commentEnd_not_infix_of_not_mem (x := '/') (by decide) (by decide)
  have hrow : commentEnd <:+: (" * Generated by msgmonster from the ROS message definition " : Text)
      ++ name ++ "." ↔ commentEnd <:+: name :=
    (commentEnd_infix_append_right hstop (by decide)).trans
      (commentEnd_infix_append_left htitle (by decide))
  have hrows : Filled.headerRows name = [("/*" : Text),
      " * Generated by msgmonster from the ROS message definition " ++ name ++ "."]
        ++ [" " ++ commentEnd] := rfl
  rw [hrows, endsOnce_iff (by decide), List.forall_mem_cons, List.forall_mem_singleton, hrow,
    and_iff_right hopen]

/-- The indentation of a documentation comment and what opens it end no comment. -/
theorem forall_above_iff {p : Text} (hp : '*' ∉ p) {rs : List Text} :
    (∀ r ∈ (p ++ ("/**" : Text)) :: rs.map (p ++ ·), ¬ commentEnd <:+: r) ↔
      ∀ r ∈ rs, ¬ commentEnd <:+: r := by
  have hline : ∀ u, commentEnd <:+: p ++ u ↔ commentEnd <:+: u := fun u =>
    commentEnd_infix_append_left (commentEnd_not_infix_of_not_mem (by decide) hp)
      fun h => hp (List.mem_of_getLast? h)
  have hopen : ¬ commentEnd <:+: p ++ "/**" := by
    rw [hline]
    decide
  rw [List.forall_mem_cons, List.forall_mem_map, and_iff_right hopen]
  simp only [hline]

theorem endsOnce_docLines (v : Bindings) (n : ℕ) (t : Text) :
    EndsOnce (Text.unrows (docLines v n t)) ↔
      ∀ line ∈ Text.rows t, ¬ commentEnd <:+: shownLine v line := by
  have hpad : '*' ∉ pad n := CodeWriter.not_mem_flatten_replicate (by decide) n
  have hrows : docLines v n t = ((pad n ++ ("/**" : Text)) :: ((Text.rows t).map (shownLine v)).map
      (pad n ++ ·)) ++ [(pad n ++ " ") ++ commentEnd] := by
    rw [List.append_assoc, List.map_map]
    rfl
  rw [hrows, endsOnce_iff (by simp [hpad]), forall_above_iff hpad, List.forall_mem_map]

theorem forall_endsOnce_iff (d : Definition) (checksum : Option Text) :
    (∀ block ∈ commentBlocks d checksum, EndsOnce block) ↔
      ¬ commentEnd <:+: d.name ∧ ∀ t ∈ docTexts d, ∀ line ∈ Text.rows t,
        ¬ commentEnd <:+: shownLine (classValues d checksum) line := by
  have hnil : ∀ t : Text, (t ≠ [] → ∀ line ∈ Text.rows t,
      ¬ commentEnd <:+: shownLine (classValues d checksum) line) ↔
      ∀ line ∈ Text.rows t, ¬ commentEnd <:+: shownLine (classValues d checksum) line := by
    intro t
    refine ⟨fun h => ?_, fun h _ => h⟩
    rcases t with _ | ⟨c, t⟩
    · intro line hline
      obtain rfl := List.mem_singleton.1 hline
      exact commentEnd_not_infix_shownLine fun key _ h => by simp [written] at h
    · exact h (by simp)
  rw [commentBlocks, List.forall_mem_map, forall_commentRows]
  simp only [endsOnce_header, endsOnce_docLines, hnil, docTexts, List.cons_append,
    List.forall_mem_cons, List.forall_mem_append, List.forall_mem_flatMap, List.forall_mem_map]

/-- **Harmless values are what it takes.** No definition of a name has a comment that ends early
exactly if the name is harmless, and the checksum if there is one. -/
theorem forall_endsOnce_iff_harmless (d : Definition) (checksum : Option Text) :
    (∀ e : Definition, e.name = d.name → ∀ block ∈ commentBlocks e checksum, EndsOnce block) ↔
      Harmless d.name ∧ ∀ sum, checksum.filter (!·.isEmpty) = some sum → Harmless sum := by
  rw [← classValues_harmless_iff]
  constructor
  · intro h key value hv
    have hkey := isKey_of_mem_classKeys (mem_classKeys.2 ⟨value, hv⟩)
    refine harmless_of_forall hkey hv fun line hfeed => ?_
    -- a field may have any line for its comment
    let e : Definition :=
      { name := d.name, fields := [⟨[], [], ⟨.primitive, [], none, .single⟩, [], line⟩] }
    have hlines := ((forall_endsOnce_iff e checksum).1 (h e rfl)).2 line (by simp [docTexts, e])
    rw [Text.rows_of_not_mem hfeed, List.forall_mem_singleton, commentEnd_infix_shownLine] at hlines
    exact hlines
  · intro hv e hname
    have hvalues : classValues e checksum = classValues d checksum := by
      simp only [classValues, hname]
    have hharmless : Harmless d.name := hv _ _ (lookup_msgName d checksum)
    rw [forall_endsOnce_iff, hname, hvalues]
    refine ⟨hharmless.noEnd, fun t _ line _ => ?_⟩
    rw [commentEnd_infix_shownLine]
    exact (substitute_harmless hv (commentEnd_not_infix_escapeEnd line)).1

/-- **Which comments of a class end early.** For every definition and every checksum the class
has a text, in which its comments stand in their order. All of them end where they are closed if
and only if the name of the message holds no end of a comment and no line of a documentation
comment has one once the values of the class are put in; where the name holds none, and no
documentation comment holds a placeholder of the class, this is so. A name and a checksum allow
for no comment that ends early, whatever the definition, if and only if they are harmless. -/
theorem render_comments_end (javaPackage runtime : Text) (dialect : Dialect) (files : FileTree)
    (d : Definition) (checksum : Option Text) :
    (∃ text, render (Style.packaged javaPackage runtime dialect files) d checksum = .ok text ∧
      InOrder (commentBlocks d checksum) text) ∧
    ((∀ block ∈ commentBlocks d checksum, EndsOnce block) ↔
      ¬ commentEnd <:+: d.name ∧ ∀ t ∈ docTexts d, ∀ line ∈ Text.rows t,
        ¬ commentEnd <:+: shownLine (classValues d checksum) line) ∧
    (¬ commentEnd <:+: d.name →
      (∀ t ∈ docTexts d, ∀ key ∈ classKeys checksum, ¬ written key <:+: t) →
      ∀ block ∈ commentBlocks d checksum, EndsOnce block) ∧
    ((∀ e : Definition, e.name = d.name → ∀ block ∈ commentBlocks e checksum, EndsOnce block) ↔
      Harmless d.name ∧ ∀ sum, checksum.filter (!·.isEmpty) = some sum → Harmless sum) := by
  have hiff := forall_endsOnce_iff d checksum
  refine ⟨⟨_, render_packaged ⟨files, rfl⟩ d checksum, inOrder_commentBlocks _ d checksum⟩, hiff,
    fun hname hkeys => hiff.2 ⟨hname, fun t ht line hline => ?_⟩,
    forall_endsOnce_iff_harmless d checksum⟩
  have hrow : line <:+: t := Text.infix_of_mem_rows hline
  exact commentEnd_not_infix_shownLine fun key hkey h => hkeys t ht key hkey (h.trans hrow)

/-- A name that holds an end of a comment ends the first comment of its class early. -/
theorem render_comments_end_early :
    let d : Definition := { name := "p*/A" }
    Definition.parse [] "p*/A" "id.jrosmessages" = .ok d ∧
      ∃ text, render (Style.packaged "org.example" "id.jrosmessages" .ros1 ⟨[], []⟩) d none =
          .ok text ∧
        ("/*\n * Generated by msgmonster from the ROS message definition p*/A.\n */" : Text)
          <:+: text ∧
        ¬ ∀ block ∈ commentBlocks d none, EndsOnce block := by
  intro d
  obtain ⟨⟨text, hrender, horder⟩, hiff, -⟩ :=
    render_comments_end "org.example" "id.jrosmessages" .ros1 ⟨[], []⟩ d none
  refine ⟨by decide, text, hrender, ?_, fun h => (hiff.1 h).1 ⟨['p'], ['A'], rfl⟩⟩
  have hheader := horder.infix_of_mem (b := Text.unrows (Filled.headerRows d.name))
    (by simp [commentBlocks, commentRows])
  convert hheader using 1
  decide +kernel

end JavaClass
end RosBindings

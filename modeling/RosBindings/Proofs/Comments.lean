import RosBindings.Proofs.Filling
import RosBindings.Proofs.Reading

/-!
# Comments in the text of a class

Every comment of a definition stands in the class row by row, right above what it
documents. Its rows are not safe from the values of the whole class: these are put in over
the complete text, so a placeholder in a comment is filled as well.

* `docBlock` is a documentation comment with what stands right below it.
* `shownLine` is a line of a comment as it ends up in a class.
* `docBlock_placed` finds the comment of each declaration in the text of the class.
* `shownLine_eq_iff` says which lines are shown as they are.
-/

namespace RosBindings.JavaClass

open CodeWriter (pad shift shown)
open Placeholder (substitute written)
open Template (docRow docRows)

variable {style : Style} {d : Definition} {checksum : Option Text} {v : Bindings} {n : ℕ}

/-! ## Rows of a comment -/

/-- A line of a comment as it stands in a class whose values are put in. -/
def shownLine (v : Bindings) (line : Text) : Text := substitute v (docRow (escapeEnd line))

/-- A documentation comment at a depth, and what stands right below it. -/
def docBlock (n : ℕ) (rows : List Text) (below : Text) : Text :=
  Text.unrows ((pad n ++ "/**") :: (rows.map (pad n ++ ·) ++ [pad n ++ " */", below]))

theorem substitute_shift_row {r : Text} (hr : '\n' ∉ r) (hne : r ≠ []) :
    substitute v (shift n r) = pad n ++ substitute v r := by
  rw [CodeWriter.shift_eq_pad hr hne, CodeWriter.substitute_pad_append]

theorem docRow_ne_nil (r : Text) : docRow r ≠ [] := by
  unfold docRow
  split <;> simp

theorem feed_not_mem_docRow {l t : Text} (hl : l ∈ Text.rows t) :
    '\n' ∉ docRow (escapeEnd l) := by
  have hesc : '\n' ∉ escapeEnd l := not_mem_escapeEnd (by decide) (Text.not_mem_of_mem_rows hl)
  unfold docRow
  split <;> simp [hesc]

theorem feed_not_mem_docRows {r t : Text} (h : r ∈ docRows (javadocRows t)) : '\n' ∉ r := by
  rw [docRows, List.mem_cons, List.mem_append, List.mem_singleton, javadocRows, List.map_map,
    List.mem_map] at h
  rcases h with rfl | ⟨l, hl, rfl⟩ | rfl
  · decide
  · exact feed_not_mem_docRow hl
  · decide

theorem map_docPieces (v : Bindings) (n : ℕ) (t : Text) :
    (docPieces n t).map (fun p => substitute v (shown p)) =
      (pad n ++ "/**") :: ((Text.rows t).map (fun l => pad n ++ shownLine v l)
        ++ [pad n ++ (" */" : Text)]) := by
  have hopen : substitute v (shift n "/**") = pad n ++ ("/**" : Text) := by
    rw [substitute_shift_row (by decide) (by decide), Placeholder.substitute_plain (by decide)]
  have hclose : substitute v (shift n " */") = pad n ++ (" */" : Text) := by
    rw [substitute_shift_row (by decide) (by decide), Placeholder.substitute_plain (by decide)]
  have hline : ∀ l ∈ Text.rows t,
      substitute v (shift n (docRow (escapeEnd l))) = pad n ++ shownLine v l := by
    intro l hl
    exact substitute_shift_row (feed_not_mem_docRow hl) (docRow_ne_nil _)
  rw [docPieces, docRows, javadocRows]
  simp only [List.map_cons, List.map_append, List.map_map, List.map_nil, shown, hopen, hclose]
  congr 2
  exact List.map_congr_left hline

/-- **Where a comment is written, its lines stand right above what is written next.** -/
theorem docBlock_placed {t below : Text}
    (h : docPieces n t ++ [(n, below)] <:+: classPieces style d checksum) :
    docBlock n ((Text.rows t).map (shownLine (classValues d checksum)))
        (substitute (classValues d checksum) (shift n below)) <:+:
      classText style d checksum := by
  have hrows : (docPieces n t ++ [(n, below)]).map
      (fun p => substitute (classValues d checksum) (shown p)) =
      (pad n ++ "/**") :: (((Text.rows t).map (shownLine (classValues d checksum))).map
        (pad n ++ ·) ++ [pad n ++ (" */" : Text),
          substitute (classValues d checksum) (shift n below)]) := by
    rw [List.map_append, map_docPieces, List.map_map]
    simp [shown, Function.comp_def]
  have hplaced := Text.unrows_isInfix (h.map fun p =>
    substitute (classValues d checksum) (shown p)) (by simp)
  rw [hrows] at hplaced
  exact hplaced.trans (List.prefix_append _ _).isInfix

/-! ## Where the comments are -/

theorem infix_flatMap {α β : Type} (g : α → List β) {x : α} {xs : List α} (hx : x ∈ xs) :
    g x <:+: xs.flatMap g := by
  obtain ⟨before, after, rfl⟩ := List.append_of_mem hx
  exact ⟨before.flatMap g, after.flatMap g, by simp⟩

theorem fieldPieces_placed (style : Style) (d : Definition) (checksum : Option Text) :
    Filled.fieldPieces d <:+: classPieces style d checksum := by
  have hbody : Filled.fieldPieces d <:+: bodyPieces (classValues d checksum) d := by
    rw [bodyPieces, fieldPieces_eq]
    simp only [List.append_assoc]
    exact (List.prefix_append _ _).isInfix
  exact hbody.trans (List.infix_append _ _ _)

/-- The comment of a field stands right above its declaration. -/
theorem field_comment_placed {f : Declaration} (hf : f ∈ d.fields) (hc : f.comment ≠ []) :
    docPieces 1 f.comment ++ [(1, Filled.fieldText f)] <:+: classPieces style d checksum := by
  have hpieces : Filled.declarationPieces 1 (Filled.fieldText f) f =
      docPieces 1 f.comment ++ [(1, Filled.fieldText f)] := by
    rw [Filled.declarationPieces, if_neg (by simpa using hc)]
  rw [← hpieces]
  refine .trans ?_ (fieldPieces_placed style d checksum)
  exact (infix_flatMap (fun f => Filled.declarationPieces 1 (Filled.fieldText f) f) hf).trans
    (List.suffix_append _ _).isInfix

/-- The comment of a member of an enumeration stands right above its declaration. -/
theorem member_comment_placed {enum : List Declaration} {f : Declaration} (he : enum ∈ d.enums)
    (hf : f ∈ enum) (hc : f.comment ≠ []) :
    docPieces 2 f.comment ++ [(2, Filled.memberText f)] <:+: classPieces style d checksum := by
  have hpieces : Filled.declarationPieces 2 (Filled.memberText f) f =
      docPieces 2 f.comment ++ [(2, Filled.memberText f)] := by
    rw [Filled.declarationPieces, if_neg (by simpa using hc)]
  obtain ⟨index, hindex⟩ : ∃ index, (enum, index) ∈ d.enums.zipIdx := by
    obtain ⟨index, hlt, rfl⟩ := List.getElem_of_mem he
    exact ⟨index, List.mem_zipIdx_iff_getElem?.2 (List.getElem?_eq_getElem hlt)⟩
  have hmember := infix_flatMap (fun f => Filled.declarationPieces 2 (Filled.memberText f) f) hf
  have henum : enum.flatMap (fun f => Filled.declarationPieces 2 (Filled.memberText f) f) <:+:
      Filled.enumPieces (enum, index) := List.infix_append _ _ _
  have hall := infix_flatMap Filled.enumPieces hindex
  rw [← hpieces]
  -- from the member to its enumeration, to all enumerations, to the class
  refine .trans ?_ (fieldPieces_placed style d checksum)
  rw [Filled.fieldPieces, List.append_assoc]
  exact ((hmember.trans henum).trans hall).trans (List.prefix_append _ _).isInfix

/-- The comment of the class stands right above its annotation. -/
theorem class_comment_placed (style : Style) (d : Definition) (checksum : Option Text) :
    docPieces 0 (classComment d) ++ [(0, ("@MessageMetadata(" : Text))] <:+:
      classPieces style d checksum := by
  have hmetadata := expandedPieces_eq (f := .metadata) 0 (metadataItems d (showsSum style checksum))
    "," ["@MessageMetadata("] [] "        " ")" rfl (by decide) (by decide) (by decide) (by decide)
  have hfirst : [(0, ("@MessageMetadata(" : Text))] <+: expandedPieces 0 .metadata
      (metadataItems d (showsSum style checksum)) "," := by
    rw [hmetadata, List.append_nil, List.singleton_append, Filled.atDepth, List.map_cons]
    exact List.prefix_append [_] _
  have hblock : docPieces 0 (classComment d) ++ [(0, ("@MessageMetadata(" : Text))] <:+:
      docPieces 0 (classComment d) ++ expandedPieces 0 .metadata
        (metadataItems d (showsSum style checksum)) "," :=
    ((List.prefix_append_right_inj _).2 hfirst).isInfix
  refine hblock.trans ⟨fragmentPieces 0 .header ++ packagePieces style.javaPackage
    ++ importPieces style.runtime d, (0, classHead) :: (1, []) :: fragmentPieces 1 .fieldsHeader
    ++ bodyPieces (classValues d checksum) d ++ [(0, closingRow)], ?_⟩
  simp only [classPieces, List.append_assoc]

/-! ## The lines of the message comment -/

theorem rows_classComment (hc : Text.trim d.comment ≠ []) :
    Text.rows (classComment d) = Text.rows ("Definition for " ++ d.name) ++
      [] :: Text.rows ("<p>" ++ d.comment) := by
  have htext : classComment d = ("Definition for " ++ d.name) ++ '\n' :: ([] ++ '\n' ::
      ("<p>" ++ d.comment)) := by
    unfold classComment
    rw [if_neg (by simpa using hc)]
    simp
  rw [htext, Text.rows_append_newline, Text.rows_append_newline]
  rfl

theorem parse_trims {lines : List Text} {name runtime : Text}
    (h : Definition.parse lines name runtime = .ok d) :
    d.name = name ∧ Text.trim d.comment = d.comment := by
  rcases parse_cases h with ⟨-, rfl⟩ | ⟨cs, -, rfl⟩
  · exact ⟨rfl, rfl⟩
  · exact ⟨rfl, Text.trim_trim _⟩

/-! ## Lines that stay as they are -/

theorem substitute_docRow (v : Bindings) (r : Text) :
    substitute v (docRow r) = docRow r ↔ substitute v r = r := by
  rcases r with _ | ⟨c, r⟩
  · exact iff_of_true (Placeholder.substitute_plain (by decide)) rfl
  · have hrow : docRow (c :: r) = " * " ++ c :: r := rfl
    rw [hrow, Placeholder.substitute_plain_append (by decide), List.append_cancel_left_eq]

theorem escapeEnd_cons_of_ne {x : Char} (hx : x ≠ '*') (t : Text) :
    escapeEnd (x :: t) = x :: escapeEnd t := by
  rw [escapeEnd.eq_def]
  split
  · next heq => cases heq
  · next heq => exact absurd (List.cons.inj heq).1 hx
  · next heq => cases heq; rfl

theorem escapeEnd_append_of_not_mem {w : Text} (hw : '*' ∉ w) (t : Text) :
    escapeEnd (w ++ t) = w ++ escapeEnd t := by
  induction w with
  | nil => rfl
  | cons x w ih =>
    rw [List.mem_cons, not_or] at hw
    rw [List.cons_append, escapeEnd_cons_of_ne (Ne.symm hw.1), ih hw.2, List.cons_append]

/-- An end of a comment does not go across what does not start with a slash. -/
theorem escapeEnd_append {u : Text} (hu : u.head? ≠ some '/') (t : Text) :
    escapeEnd (t ++ u) = escapeEnd t ++ escapeEnd u := by
  fun_induction escapeEnd t with
  | case1 => rfl
  | case2 cs ih =>
    rw [List.append_assoc, ← ih]
    rfl
  | case3 c cs hend ih =>
    rw [List.cons_append, List.cons_append, ← ih, escapeEnd.eq_def]
    split
    · next heq => cases heq
    · next rest heq =>
      -- the end would have to start in `t`, whose last character is a star, and end in `u`
      obtain ⟨rfl, hcs⟩ := List.cons.inj heq
      rcases cs with _ | ⟨x, cs⟩
      · exact absurd (congrArg List.head? hcs) hu
      · rw [(List.cons.inj hcs).1] at hend
        exact absurd rfl (hend cs rfl)
    · next heq => cases heq; rfl

theorem prefix_of_prefix_escapeEnd {w t : Text} (hw : '*' ∉ w) (h : w <+: escapeEnd t) :
    w <+: t := by
  induction w generalizing t with
  | nil => exact List.nil_prefix
  | cons x w ih =>
    rw [List.mem_cons, not_or] at hw
    unfold escapeEnd at h
    split at h
    · simp at h
    · exact absurd (List.cons_prefix_cons.1 h).1.symm hw.1
    · next c cs _ =>
      rw [List.cons_prefix_cons] at h ⊢
      exact ⟨h.1, ih hw.2 h.2⟩

theorem infix_of_infix_append {α : Type} {x : α} {w u s : List α} (hx : x ∉ u)
    (h : x :: w <:+: u ++ s) : x :: w <:+: s := by
  induction u with
  | nil => exact h
  | cons e u ih =>
    rw [List.mem_cons, not_or] at hx
    rcases List.infix_cons_iff.1 h with h | h
    · exact absurd (List.cons_prefix_cons.1 h).1 hx.1
    · exact ih hx.2 h

/-- A placeholder stands in the escaped text exactly where it stands in the text: it has no
character in common with an end of a comment, escaped or not. -/
theorem written_infix_escapeEnd {key t : Text} (hk : Placeholder.isKey key = true) :
    written key <:+: escapeEnd t ↔ written key <:+: t := by
  have hstar : '*' ∉ written key := by
    have hkey : '*' ∉ key := fun hx => absurd (Placeholder.isKeyChar_of_mem hk hx) (by decide)
    simp [written, hkey]
  constructor
  · intro h
    -- along the escaped text: the placeholder starts here or further on
    fun_induction escapeEnd t with
    | case1 => simp [written] at h
    | case2 cs ih =>
      have hcs : written key <:+: escapeEnd cs := infix_of_infix_append (by decide) h
      exact (ih hcs).trans (List.suffix_append ['*', '/'] cs).isInfix
    | case3 c cs _ ih =>
      rcases List.infix_cons_iff.1 h with h | h
      · obtain ⟨rfl, hrest⟩ := List.cons_prefix_cons.1 h
        have hcs := prefix_of_prefix_escapeEnd
          (fun hx => hstar (List.mem_cons_of_mem '$' hx)) hrest
        exact (List.cons_prefix_cons.2 ⟨rfl, hcs⟩).isInfix
      · exact (ih h).trans (List.suffix_cons c cs).isInfix
  · rintro ⟨p, s, rfl⟩
    refine ⟨escapeEnd p, escapeEnd s, ?_⟩
    have hhead : (written key ++ s).head? ≠ some '/' := by simp [written]
    rw [List.append_assoc, List.append_assoc, escapeEnd_append hhead,
      escapeEnd_append_of_not_mem hstar]

/-- The names of the values of the whole class. -/
def classKeys (checksum : Option Text) : List Text :=
  "msgName" :: "className" :: if (checksum.filter (!·.isEmpty)).isSome then ["md5sum"] else []

theorem of_lookup_classValues {key value : Text}
    (h : (classValues d checksum).lookup key = some value) :
    key = "className" ∧ value = Naming.className d.name ∨
      key = "md5sum" ∧ checksum.filter (!·.isEmpty) = some value ∨
      key = "msgName" ∧ value = d.name := by
  have hname : ∀ {value}, (Bindings.put "msgName" d.name []).lookup key = some value →
      key = "msgName" ∧ value = d.name := by
    intro value h
    rw [Bindings.lookup_put] at h
    split at h
    · next hkey => exact ⟨hkey, (Option.some.inj h).symm⟩
    · cases h
  simp only [classValues] at h
  rw [Bindings.lookup_put] at h
  split at h
  · next hkey => exact .inl ⟨hkey, (Option.some.inj h).symm⟩
  · split at h
    · next sum hsum =>
      rw [Bindings.lookup_put] at h
      split at h
      · next hkey => exact .inr (.inl ⟨hkey, hsum.trans h⟩)
      · exact .inr (.inr (hname h))
    · exact .inr (.inr (hname h))

theorem mem_classKeys {key : Text} :
    key ∈ classKeys checksum ↔ ∃ value, (classValues d checksum).lookup key = some value := by
  unfold classKeys
  rw [List.mem_cons, List.mem_cons, List.mem_ite_nil_right, List.mem_singleton,
    Option.isSome_iff_exists]
  constructor
  · rintro (rfl | rfl | ⟨⟨sum, hsum⟩, rfl⟩)
    · exact ⟨_, lookup_msgName d checksum⟩
    · exact ⟨_, lookup_className d checksum⟩
    · exact ⟨sum, lookup_md5sum d checksum hsum⟩
  · rintro ⟨value, h⟩
    rcases of_lookup_classValues h with ⟨rfl, -⟩ | ⟨rfl, hsum⟩ | ⟨rfl, -⟩
    · exact .inr (.inl rfl)
    · exact .inr (.inr ⟨⟨value, hsum⟩, rfl⟩)
    · exact .inl rfl

theorem isKey_of_mem_classKeys {key : Text} (h : key ∈ classKeys checksum) :
    Placeholder.isKey key = true := by
  unfold classKeys at h
  rw [List.mem_cons, List.mem_cons, List.mem_ite_nil_right, List.mem_singleton] at h
  rcases h with rfl | rfl | ⟨-, rfl⟩ <;> decide

/-- A line without the placeholders of the class is shown as it is. -/
theorem shownLine_eq {line : Text} (h : ∀ key ∈ classKeys checksum, ¬ written key <:+: line) :
    shownLine (classValues d checksum) line = docRow (escapeEnd line) := by
  refine (substitute_docRow _ _).2 (Placeholder.substitute_eq_self fun key value _ hv => ?_)
  have hkey := mem_classKeys.2 ⟨value, hv⟩
  rw [written_infix_escapeEnd (isKey_of_mem_classKeys hkey)]
  exact h key hkey

/-- Where neither the name nor the checksum has a dollar sign, no other line is. -/
theorem shownLine_eq_iff (hn : '$' ∉ d.name) (hs : ∀ sum, checksum = some sum → '$' ∉ sum)
    {line : Text} : shownLine (classValues d checksum) line = docRow (escapeEnd line) ↔
      ∀ key ∈ classKeys checksum, ¬ written key <:+: line := by
  refine ⟨fun h key hkey => ?_, shownLine_eq⟩
  have hplain : ∀ key value, (classValues d checksum).lookup key = some value →
      Placeholder.isKey key = true ∧ '$' ∉ value := by
    intro key value hv
    refine ⟨isKey_of_mem_classKeys (mem_classKeys.2 ⟨value, hv⟩), ?_⟩
    rcases of_lookup_classValues hv with ⟨-, rfl⟩ | ⟨-, hsum⟩ | ⟨-, rfl⟩
    · exact dollar_not_mem_className hn
    · exact hs value (Option.filter_eq_some_iff.1 hsum).1
    · exact hn
  obtain ⟨value, hv⟩ := mem_classKeys.1 hkey
  rw [← written_infix_escapeEnd (isKey_of_mem_classKeys hkey)]
  exact (Placeholder.substitute_eq_self_iff hplain).1 ((substitute_docRow _ _).1 h) key value hv

/-- **Every comment stands line by line above what it documents.** A class has a text for every
definition that was read. The message comment follows the title and an empty line, right above
the annotation; the comments of fields and members stand right above their declarations. An
end of a comment inside a line is escaped. The only other change is that the placeholders of
the class are filled: a line without them is shown as it is, and no other line is, as long as
no dollar sign comes in with the values. -/
theorem render_shows_comments {lines : List Text} {name runtime : Text}
    (h : Definition.parse lines name runtime = .ok d) (javaPackage library : Text)
    (dialect : Dialect) (files : FileTree) (checksum : Option Text) :
    let v := classValues d checksum
    ∃ text, render (Style.packaged javaPackage library dialect files) d checksum = .ok text ∧
      (∀ first rest, d.comment ≠ [] → Text.rows d.comment = first :: rest →
        docBlock 0 ((Text.rows ("Definition for " ++ name) ++ [] :: (("<p>" : Text) ++ first)
          :: rest).map (shownLine v)) "@MessageMetadata(" <:+: text) ∧
      (∀ f ∈ d.fields, f.comment ≠ [] →
        docBlock 1 ((Text.rows f.comment).map (shownLine v))
          (substitute v (shift 1 (Filled.fieldText f))) <:+: text) ∧
      (∀ enum ∈ d.enums, ∀ f ∈ enum, f.comment ≠ [] →
        docBlock 2 ((Text.rows f.comment).map (shownLine v))
          (substitute v (shift 2 (Filled.memberText f))) <:+: text) ∧
      (∀ line : Text, (∀ key ∈ classKeys checksum, ¬ written key <:+: line) →
        shownLine v line = docRow (escapeEnd line)) ∧
      ('$' ∉ name → (∀ sum, checksum = some sum → '$' ∉ sum) →
        ∀ line, shownLine v line = docRow (escapeEnd line) →
          ∀ key ∈ classKeys checksum, ¬ written key <:+: line) := by
  intro v
  obtain ⟨rfl, htrim⟩ := parse_trims h
  have hp : (Style.packaged javaPackage library dialect files).IsPackaged := ⟨files, rfl⟩
  refine ⟨_, render_packaged hp d checksum, fun first rest hc hrows => ?_, fun f hf hc => ?_,
    fun enum he f hf hc => ?_, fun line => shownLine_eq, fun hn hs line => ?_⟩
  · have hfirst := Text.rows_append_left (p := "<p>") (by decide) hrows
    have hblock := docBlock_placed (class_comment_placed
      (Style.packaged javaPackage library dialect files) d checksum)
    rw [rows_classComment (by rwa [htrim]), hfirst, CodeWriter.shift_zero,
      Placeholder.substitute_plain (t := "@MessageMetadata(") (by decide)] at hblock
    exact hblock
  · exact docBlock_placed (field_comment_placed hf hc)
  · exact docBlock_placed (member_comment_placed he hf hc)
  · exact (shownLine_eq_iff hn hs).1

/-- A comment that names the placeholder of the class shows the class instead. -/
theorem render_shows_comments_filled :
    let d : Definition :=
      { name := "p/A"
        comment := "see $\x7bclassName\x7d */"
        fields := [⟨"a", "int32", ⟨.primitive, "int", none, .single⟩, [], "how\nmany"⟩]
        enums := [[⟨"LOW", "int8", ⟨.primitive, "byte", none, .single⟩, "0", "the least"⟩]] }
    Definition.parse ["# see $\x7bclassName\x7d */", "", "# the least", "int8 LOW=0", "# how",
      "# many", "int32 a"] "p/A" "id.jrosmessages" = .ok d ∧
    ∃ text, render (Style.packaged "org.example" "id.jrosmessages" .ros1 ⟨[], []⟩) d none =
        .ok text ∧
      ("/**\n * Definition for p/A\n *\n * <p>see AMessage *&#47;\n */\n@MessageMetadata(" : Text)
        <:+: text ∧
      ("    /**\n     * how\n     * many\n     */\n    public int a;" : Text) <:+: text ∧
      ("        /**\n         * the least\n         */\n        LOW," : Text) <:+: text := by
  intro d
  have hparse : Definition.parse ["# see $\x7bclassName\x7d */", "", "# the least", "int8 LOW=0",
      "# how", "# many", "int32 a"] "p/A" "id.jrosmessages" = .ok d := by decide +kernel
  obtain ⟨text, hrender, hmessage, hfield, hmember, -⟩ :=
    render_shows_comments hparse "org.example" "id.jrosmessages" .ros1 ⟨[], []⟩ none
  have hclass := hmessage _ _ (by decide) rfl
  have ha := hfield _ List.mem_cons_self (by decide)
  have hlow := hmember _ List.mem_cons_self _ List.mem_cons_self (by decide)
  refine ⟨hparse, text, hrender, ?_, ?_, ?_⟩
  · convert hclass using 1
    decide +kernel
  · convert ha using 1
    decide +kernel
  · convert hlow using 1
    decide +kernel

end RosBindings.JavaClass

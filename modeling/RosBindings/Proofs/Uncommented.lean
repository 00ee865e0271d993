import RosBindings.Failure
import RosBindings.Proofs.Lines
import RosBindings.Proofs.Reading

/-!
# Comments have no part in what is declared

Comments decide where the comment of the message ends, and with it where the fields start to be
read. They decide nothing else.

* `bare`: declarations and definitions without their comments.
* `parse_bare`: comments aside, a definition is what its field lines say.
* `uncommented`: lines without their comments.
* `parse_uncommented`: without their comments, lines are read as the same definition, bare.
-/

namespace RosBindings

/-! ## Comments left out -/

/-- A declaration without its comment. -/
def Declaration.bare (d : Declaration) : Declaration := { d with comment := [] }

/-- A constant without its comment. -/
def Constant.bare (c : Constant) : Constant := { c with declaration := c.declaration.bare }

/-- Sorted declarations without their comments. -/
def Grouping.bare (g : Grouping) : Grouping where
  fields := g.fields.map Declaration.bare
  closed := g.closed.map (·.map Declaration.bare)
  open? := g.open?.map (·.map Declaration.bare)

/-- A definition without any comments. -/
def Definition.bare (d : Definition) : Definition where
  name := d.name
  fields := d.fields.map Declaration.bare
  enums := d.enums.map (·.map Declaration.bare)

/-- What is said about a refused line once its comment is cut off. -/
def LineError.bare : LineError → LineError
  | .incomplete line => .incomplete (Text.trim (Line.body line))
  | e => e

/-- Lines without their comments: comment lines are left out, and field lines are cut off at
the first hash sign. -/
def Line.uncommented (lines : List Text) : List Text :=
  lines.filterMap fun line =>
    match Line.kind line with
    | .blank => some line
    | .comment => none
    | .field => some (Line.body line)

/-- The field lines of a definition. -/
def Line.fieldLines (rawLines : List Text) : List Text :=
  (rawLines.map Text.trim).filter Line.isField

theorem Grouping.bare_add (g : Grouping) (c : Constant) : (g.add c).bare = g.bare.add c.bare := by
  obtain ⟨fields, closed, current⟩ := g
  obtain ⟨d, value⟩ := c
  rcases value with _ | _ | n
  · simp [add, bare, Constant.bare]
  · cases current <;> simp [add, bare, Constant.bare]
  · cases current with
    | none => simp [add, bare, Constant.bare]
    | some members =>
      simp only [add, bare, Constant.bare, Option.map_some, List.length_map]
      split <;> simp

theorem Grouping.bare_ofList (cs : List Constant) :
    (ofList cs).bare = ofList (cs.map Constant.bare) := by
  have hfold : ∀ g : Grouping, (cs.foldl add g).bare = (cs.map Constant.bare).foldl add g.bare := by
    induction cs with
    | nil => intro g; rfl
    | cons c cs ih =>
      intro g
      rw [List.foldl_cons, ih, bare_add, List.map_cons, List.foldl_cons]
  exact hfold {}

theorem Grouping.bare_enums (g : Grouping) :
    g.bare.enums = g.enums.map (·.map Declaration.bare) := by
  rcases g with ⟨fields, closed, _ | members⟩ <;> simp [bare, enums]

namespace Definition

variable {runtime : Text} {lines : List Text} {line : Text}

/-- What a field line says, its comment aside. -/
def readBare (runtime line : Text) : Except LineError Constant :=
  (readField runtime [] line).map Constant.bare

/-- The comments above a field are all that it takes from the lines above. -/
theorem readField_bare (runtime : Text) (comments : List Text) (line : Text) :
    (readField runtime comments line).map Constant.bare = readBare runtime line := by
  unfold readBare readField
  cases FieldLine.parse line with
  | error e => rfl
  | ok f =>
    cases hi : f.intValue with
    | error e => simp only [hi]
    | ok value =>
      simp only [hi]
      cases FieldType.ofToken runtime f.typeToken <;> rfl

/-- **What the lines of a body say, comments aside, is what each field line says.** -/
theorem readBody_bare (runtime : Text) (comments lines : List Text) :
    (readBody runtime comments lines).map (List.map Constant.bare) =
      (lines.filter Line.isField).mapM (readBare runtime) := by
  induction lines generalizing comments with
  | nil => rfl
  | cons line lines ih =>
    rw [readBody]
    cases hk : Line.kind line with
    | blank | comment => rw [List.filter_cons_of_neg (by simp [Line.isField, hk])]; exact ih _
    | field =>
      rw [List.filter_cons_of_pos (by simp [Line.isField, hk]), List.mapM_cons, ← ih [],
        ← readField_bare runtime comments]
      cases readField runtime comments line with
      | error e => rfl
      | ok c => cases readBody runtime [] lines <;> rfl

/-- A definition put together from constants, without comments. -/
def ofBare (name : Text) (cs : List Constant) : Definition where
  name := name
  fields := (Grouping.ofList cs).fields
  enums := (Grouping.ofList cs).enums

theorem bare_ofList (name comment : Text) (cs : List Constant) :
    bare ⟨name, comment, (Grouping.ofList cs).fields, (Grouping.ofList cs).enums⟩ =
      ofBare name (cs.map Constant.bare) := by
  unfold ofBare bare
  rw [← Grouping.bare_ofList, Grouping.bare_enums]
  rfl

theorem filter_isField_of_none (h : (!lines.any Line.isField) = true) :
    lines.filter Line.isField = [] := by
  rw [List.filter_eq_nil_iff]
  simpa using h

/-- **Comments aside, a definition is what its field lines say.** -/
theorem parse_bare (rawLines : List Text) (name runtime : Text) :
    (parse rawLines name runtime).map bare =
      ((Line.fieldLines rawLines).mapM (readBare runtime)).map (ofBare name) := by
  rw [Line.fieldLines, ← filter_isField_normalize]
  unfold parse
  simp only
  split
  · next hnone =>
    rw [filter_isField_of_none hnone]
    rfl
  · rw [← filter_isField_splitPreamble, ← readBody_bare runtime []]
    cases readBody runtime [] (splitPreamble (Line.normalize rawLines)).2 with
    | error e => rfl
    | ok cs => exact congrArg Except.ok (bare_ofList name _ cs)

/-! ## Lines without comments -/

/-- A field line says the same without its comment; where it is refused, it is refused for
the same reason. -/
theorem readBare_trim_body (runtime line : Text) :
    readBare runtime (Text.trim (Line.body line)) =
      (readBare runtime line).mapError LineError.bare := by
  have hrefused : Text.trim (Text.trim (Line.body line)) =
      Text.trim (Line.body (Text.trim line)) := by
    rw [Text.trim_trim, Line.trim_body_trim]
  unfold readBare readField FieldLine.parse
  rw [FieldLine.tokens_trim_body, hrefused]
  rcases FieldLine.tokens line with _ | ⟨type, _ | ⟨name, rest⟩⟩
  · rfl
  · rfl
  · -- the value is read from the tokens alone
    simp only [FieldLine.intValue]
    split
    · rfl
    · cases FieldType.ofToken runtime type with
      | error e => rfl
      | ok t => simp only [Except.map, Except.mapError, Constant.bare, Declaration.bare]

theorem mapM_map_mapError {α : Type} {f : Text → Except LineError α} {k : Text → Text}
    {k' : LineError → LineError} (h : ∀ line, f (k line) = (f line).mapError k')
    (lines : List Text) : (lines.map k).mapM f = (lines.mapM f).mapError k' := by
  induction lines with
  | nil => rfl
  | cons line lines ih =>
    rw [List.map_cons, List.mapM_cons, List.mapM_cons, h, ih]
    cases f line with
    | error e => rfl
    | ok a => cases lines.mapM f <;> rfl

/-- The field lines stay, without their comments. -/
theorem fieldLines_uncommented (rawLines : List Text) :
    Line.fieldLines (Line.uncommented rawLines) =
      (Line.fieldLines rawLines).map fun line => Text.trim (Line.body line) := by
  unfold Line.fieldLines
  induction rawLines with
  | nil => rfl
  | cons line lines ih =>
    unfold Line.uncommented at ih ⊢
    rw [List.map_cons]
    cases hk : Line.kind line with
    | blank =>
      rw [List.filterMap_cons_some (by rw [hk]), List.map_cons,
        List.filter_cons_of_neg (by simp [Line.isField, hk]),
        List.filter_cons_of_neg (by simp [Line.isField, hk]), ih]
    | comment =>
      rw [List.filterMap_cons_none (by rw [hk]),
        List.filter_cons_of_neg (by simp [Line.isField, hk]), ih]
    | field =>
      rw [List.filterMap_cons_some (by rw [hk]), List.map_cons,
        List.filter_cons_of_pos (by simp [Line.isField, Line.kind_body hk]),
        List.filter_cons_of_pos (by simp [Line.isField, hk]), List.map_cons, ih,
        Line.trim_body_trim]

theorem hash_not_mem_uncommented {rawLines : List Text} (h : line ∈ Line.uncommented rawLines) :
    '#' ∉ line := by
  obtain ⟨l, -, hl⟩ := List.mem_filterMap.1 h
  split at hl
  · next hk =>
    cases hl
    exact Line.hash_not_mem_of_blanks (Text.trim_eq_nil_iff.1 (Line.kind_eq_blank_iff.1 hk))
  · cases hl
  · cases hl
    exact Line.hash_not_mem_body l

theorem readField_of_not_mem (h : '#' ∉ line) :
    readField runtime [] line = readBare runtime line := by
  unfold readBare readField FieldLine.parse
  rw [Line.inlineComment_of_not_mem h]
  rcases FieldLine.tokens line with _ | ⟨type, _ | ⟨name, rest⟩⟩
  · rfl
  · rfl
  · simp only [FieldLine.intValue]
    split
    · rfl
    · cases FieldType.ofToken runtime type with
      | error e => rfl
      | ok t => rfl

theorem readBody_of_not_mem (h : ∀ line ∈ lines, '#' ∉ line) :
    readBody runtime [] lines = (lines.filter Line.isField).mapM (readBare runtime) := by
  induction lines with
  | nil => rfl
  | cons line lines ih =>
    rw [List.forall_mem_cons] at h
    rw [readBody]
    cases hk : Line.kind line with
    | blank => rw [List.filter_cons_of_neg (by simp [Line.isField, hk])]; exact ih h.2
    | comment => exact absurd hk (Line.kind_ne_comment h.1)
    | field =>
      rw [List.filter_cons_of_pos (by simp [Line.isField, hk]), List.mapM_cons, ← ih h.2,
        readField_of_not_mem h.1]
      cases readBare runtime line with
      | error e => rfl
      | ok c => cases readBody runtime [] lines <;> rfl

/-- Blank lines make an empty comment. -/
theorem joinComments_of_blank (h : ∀ line ∈ lines, Line.kind line = .blank) :
    joinComments lines = [] := by
  have hclean : ∀ t ∈ lines.map Line.cleanComment, t = [] := by
    intro t ht
    obtain ⟨line, hl, rfl⟩ := List.mem_map.1 ht
    rw [Line.cleanComment, Line.kind_eq_blank_iff.1 (h line hl)]
    rfl
  rw [joinComments, Text.trim_eq_nil_iff, List.all_eq_true]
  intro c hc
  rcases Text.mem_join hc with hc | ⟨t, ht, hct⟩
  · rw [List.mem_singleton.1 hc]
    decide
  · rw [hclean t ht] at hct
    cases hct

/-- **Without hash signs a definition has no comments.** -/
theorem parse_of_not_mem {rawLines : List Text} (h : ∀ line ∈ rawLines, '#' ∉ line)
    (name runtime : Text) :
    parse rawLines name runtime =
      ((Line.fieldLines rawLines).mapM (readBare runtime)).map (ofBare name) := by
  have hno : ∀ line ∈ Line.normalize rawLines, '#' ∉ line := by
    intro line hl hmem
    obtain ⟨raw, hraw, rfl⟩ := List.mem_map.1 ((List.dropWhile_suffix _).subset hl)
    exact h raw hraw (Text.mem_of_mem_trim hmem)
  rw [Line.fieldLines, ← filter_isField_normalize]
  obtain ⟨hsplit, hfields⟩ := splitPreamble_spec (Line.normalize rawLines)
  have hcomment : joinComments (splitPreamble (Line.normalize rawLines)).1 = [] := by
    refine joinComments_of_blank fun line hl => ?_
    have hline : line ∈ Line.normalize rawLines := by
      rw [← hsplit]; exact List.mem_append_left _ hl
    cases hk : Line.kind line with
    | blank => rfl
    | comment => exact absurd hk (Line.kind_ne_comment (hno line hline))
    | field =>
      have hfield := hfields line hl
      rw [Line.isField, hk] at hfield
      cases hfield
  have hbody : ∀ line ∈ (splitPreamble (Line.normalize rawLines)).2, '#' ∉ line := by
    intro line hl
    refine hno line ?_
    rw [← hsplit]
    exact List.mem_append_right _ hl
  unfold parse
  simp only
  split
  · next hnone =>
    rw [filter_isField_of_none hnone]
    rfl
  · rw [← filter_isField_splitPreamble, ← readBody_of_not_mem hbody, hcomment]
    rfl

/-- **Comments have no part in what is declared.** Leaving out the comment lines and cutting
off the comments behind fields leaves a definition as it is, but for its comments. What is
refused with comments is refused without, and for the same reason: the same fault of a value
or a type, or too few tokens in the line that is left. -/
theorem parse_uncommented (rawLines : List Text) (name runtime : Text) :
    parse (Line.uncommented rawLines) name runtime =
        ((parse rawLines name runtime).map bare).mapError LineError.bare ∧
      ∀ e : LineError, e.bare.isRecoverable = e.isRecoverable ∧
        (e.bare = e ∨ ∃ line, e = .incomplete line ∧
          e.bare = .incomplete (Text.trim (Line.body line))) := by
  constructor
  · rw [parse_of_not_mem fun _ => hash_not_mem_uncommented, fieldLines_uncommented,
      mapM_map_mapError (readBare_trim_body runtime), parse_bare]
    cases (Line.fieldLines rawLines).mapM (readBare runtime) <;> rfl
  · intro e
    cases e with
    | incomplete line => exact ⟨rfl, .inr ⟨line, rfl, rfl⟩⟩
    | value error => exact ⟨rfl, .inl rfl⟩
    | type error => exact ⟨rfl, .inl rfl⟩

end Definition

end RosBindings

import RosBindings.Proofs.ClassText

/-!
# How the writing of a class ends

A class is written from its fragments, and the fragments are all that can fail: the sections
come in the order of the stages, so that a class never asks for a stage that it cannot go to.
This holds of fragments of any kind, be they the packaged ones or those of a folder.

* `uses` are the fragments that a class is written from, in the order in which it asks for them.
* `Writes` says how part of the writing ends; one lemma for each way to go on, and one for each
  section.
* `build_eq_ok` and `build_eq_error`: a class fails as the first of its fragments that fails, and
  is ready to be written to its file if there is none.
-/

namespace RosBindings.JavaClass

/-! ## The fragments of a class -/

/-- A fragment and what it is written with. -/
abbrev Use := Fragment × Template.Context

/-- A documentation comment. -/
def docUse (t : Text) : Use := (.javadoc, [("lines", .list (javadocRows t))])

/-- A declaration with its comment. -/
def declarationUses (fragment : Fragment) (f : Declaration) : List Use :=
  (if f.comment.isEmpty then [] else [docUse f.comment]) ++ [(fragment, [])]

/-- The sections in front of the fields. -/
def topUses (style : Style) (d : Definition) : List Use :=
  [(.header, []), (.imports, [("imports", .list (imports style.runtime d))]),
   docUse (classComment d), (.metadata, []), (.fieldsHeader, [])]

/-- The enumerations and the fields. -/
def fieldUses (d : Definition) : List Use :=
  d.enums.flatMap (·.flatMap (declarationUses .enumMember))
    ++ d.fields.flatMap fun f => declarationUses (fieldFragment f) f

/-- The methods that name every field. -/
def identityUses : List Use := [(.hashCode, []), (.equals, []), (.toText, [])]

/-- The fragments that a class is written from. -/
def uses (style : Style) (d : Definition) : List Use :=
  topUses style d ++ (fieldUses d
    ++ (d.fields.flatMap (fun f => [(accessorFragment f, [])]) ++ identityUses))

/-- What is wrong with a fragment, if anything. -/
def Style.faultOf? (style : Style) (u : Use) : Option TemplateError :=
  match style.fragments u.1 u.2 with
  | .ok _ => none
  | .error e => some e

/-- What is wrong with the first fragment that fails. -/
def Style.fault? (style : Style) (us : List Use) : Option TemplateError :=
  us.findSome? style.faultOf?

variable {style : Style} {us vs : List Use} {s e : Stage} {b : Build} {d : Definition}

theorem Style.fault?_append :
    style.fault? (us ++ vs) = (style.fault? us).or (style.fault? vs) := List.findSome?_append

theorem Style.fault?_eq_none_iff :
    style.fault? us = none ↔ ∀ u ∈ us, ∃ t, style.fragments u.1 u.2 = .ok t := by
  have hone : ∀ u, style.faultOf? u = none ↔ ∃ t, style.fragments u.1 u.2 = .ok t := by
    intro u
    unfold faultOf?
    cases style.fragments u.1 u.2 <;> simp
  simp only [fault?, List.findSome?_eq_none_iff, hone]

/-! ## Parts of the writing -/

/-- How writing ends that asks for fragments one after the other: it fails as the first of them
that fails, and if there is none it brings the class to a stage. -/
structure Writes (style : Style) (us : List Use) (s : Stage) (x : Except Failure Build) : Prop where
  fails : ∀ error, style.fault? us = some error → x = .error (.template error)
  ends : style.fault? us = none → ∃ b, x = .ok b ∧ b.stage = s

namespace Writes

theorem done (h : b.stage = s) : Writes style [] s (pure b) := ⟨nofun, fun _ => ⟨b, rfl, h⟩⟩

theorem advance (h : b.stage = s) (hfinal : s.isFinal = false) (hlt : s.rank < e.rank) :
    Writes style [] e (b.advance e) :=
  ⟨nofun, fun _ => ⟨{ b with stage := e }, Build.advance_eq_ok (h ▸ hfinal) (h ▸ hlt), rfl⟩⟩

theorem of_fault {error : TemplateError} (h : style.fault? us = some error) :
    Writes style us s (.error (.template error)) := by
  refine ⟨fun error' h' => ?_, fun h' => ?_⟩
  · rw [Option.some.inj (h.symm.trans h')]
  · rw [h] at h'
    cases h'

/-- Fragments that do not fail may be left out. -/
theorem of_fault_eq {x : Except Failure Build} (h : style.fault? us = style.fault? vs)
    (hx : Writes style vs s x) : Writes style us s x :=
  ⟨fun error h' => hx.fails error (h.symm.trans h'), fun h' => hx.ends (h.symm.trans h')⟩

theorem fragment {f : Fragment} {context : Template.Context} {next : Text → Except Failure Build}
    (hnext : ∀ t, Writes style us e (next t)) :
    Writes style ((f, context) :: us) e (style.fragment f context >>= next) := by
  cases hf : style.fragments f context with
  | error error =>
    have hfault : style.fault? ((f, context) :: us) = some error := by
      simp only [Style.fault?, List.findSome?_cons, Style.faultOf?, hf]
    rw [Style.fragment, hf]
    exact of_fault hfault
  | ok t =>
    have hfault : style.fault? ((f, context) :: us) = style.fault? us := by
      simp only [Style.fault?, List.findSome?_cons, Style.faultOf?, hf]
    rw [Style.fragment, hf]
    exact of_fault_eq hfault (hnext t)

/-- What is written next starts at the stage that the class has come to. -/
theorem bind {x : Except Failure Build} {next : Build → Except Failure Build}
    (hx : Writes style us s x) (hnext : ∀ b, b.stage = s → Writes style vs e (next b)) :
    Writes style (us ++ vs) e (x >>= next) := by
  cases hfault : style.fault? us with
  | some error =>
    have hall : style.fault? (us ++ vs) = some error := by
      rw [Style.fault?_append, hfault, Option.some_or]
    rw [hx.fails error hfault]
    exact of_fault hall
  | none =>
    have hall : style.fault? (us ++ vs) = style.fault? vs := by
      rw [Style.fault?_append, hfault, Option.none_or]
    obtain ⟨b, rfl, hb⟩ := hx.ends hfault
    exact of_fault_eq hall (hnext b hb)

/-- What is written next may ask for nothing. -/
theorem andThen {x : Except Failure Build} {next : Build → Except Failure Build}
    (hx : Writes style us s x) (hnext : ∀ b, b.stage = s → Writes style [] e (next b)) :
    Writes style us e (x >>= next) := by
  have h := hx.bind hnext
  rwa [List.append_nil] at h

/-- **What each step asks for, a whole run asks for one after the other.** -/
theorem foldlM {α : Type} {step : Build → α → Except Failure Build} {g : α → List Use}
    (hstep : ∀ b x, b.stage = s → Writes style (g x) s (step b x)) (xs : List α)
    (h : b.stage = s) : Writes style (xs.flatMap g) s (xs.foldlM step b) := by
  induction xs generalizing b with
  | nil => exact done h
  | cons x xs ih =>
    rw [List.foldlM_cons, List.flatMap_cons]
    exact (hstep b x h).bind fun b' hb' => ih hb'

end Writes

/-! ## The sections -/

/-- A section that is one fragment. -/
theorem Writes.one {f : Fragment} {context : Template.Context} {next : Text → Build}
    (hnext : ∀ t, (next t).stage = s) (hfinal : s.isFinal = false) (hlt : s.rank < e.rank) :
    Writes style [(f, context)] e (style.fragment f context >>= fun t => (next t).advance e) :=
  .fragment fun t => .advance (hnext t) hfinal hlt

theorem writeHeader_writes (h : b.stage = .start) :
    Writes style [(.header, [])] .headerEmitted (writeHeader style b) :=
  .one (fun _ => h) rfl (by decide)

theorem writePackage_writes (h : b.stage = .headerEmitted) :
    Writes style [] .packageEmitted (writePackage style b) := .advance h rfl (by decide)

theorem writeImports_writes (h : b.stage = .packageEmitted) :
    Writes style [(.imports, [("imports", .list (imports style.runtime d))])] .importsEmitted
      (writeImports style d b) := .one (fun _ => h) rfl (by decide)

theorem writeJavadoc_writes (t : Text) (h : b.stage = s) :
    Writes style [docUse t] s (writeJavadoc style t b) := .fragment fun _ => .done h

theorem writeClassComment_writes (h : b.stage = .importsEmitted) :
    Writes style [docUse (classComment d)] .docEmitted (writeClassComment style d b) :=
  (writeJavadoc_writes (classComment d) h).bind fun _ h₁ => .advance h₁ rfl (by decide)

theorem writeMetadata_writes (sum : Option Text) (h : b.stage = .docEmitted) :
    Writes style [(.metadata, [])] .metadataEmitted (writeMetadata style d sum b) :=
  .one (fun _ => h) rfl (by decide)

theorem openBody_writes (h : b.stage = .metadataEmitted) :
    Writes style [(.fieldsHeader, [])] .bodyOpen (openBody style b) :=
  .one (fun _ => h) rfl (by decide)

theorem writeDeclaration_writes (fragment : Fragment) (f : Declaration) (h : b.stage = s) :
    Writes style (declarationUses fragment f) s (writeDeclaration style fragment b f) := by
  unfold writeDeclaration declarationUses
  simp only
  split
  · exact .fragment fun _ => .done h
  · exact (writeJavadoc_writes f.comment h).bind fun b' hb' => .fragment fun _ => .done hb'

theorem writeEnum_writes (enum : List Declaration × ℕ) (h : b.stage = s) :
    Writes style (enum.1.flatMap (declarationUses .enumMember)) s (writeEnum style b enum) := by
  have hmembers : Writes style (enum.1.flatMap (declarationUses .enumMember)) s
      (enum.1.foldlM (writeDeclaration style .enumMember)
        (b.write fun w => (w.row []).openBlock (enumHead enum.2))) :=
    .foldlM (fun b f hb => writeDeclaration_writes .enumMember f hb) enum.1 h
  exact hmembers.andThen fun b' hb' => .done hb'

theorem writeFields_writes (h : b.stage = .bodyOpen) :
    Writes style (fieldUses d) .fieldsEmitted (writeFields style d b) := by
  have henums : Writes style (d.enums.zipIdx.flatMap fun enum =>
      enum.1.flatMap (declarationUses .enumMember)) .bodyOpen
      (d.enums.zipIdx.foldlM (writeEnum style) b) :=
    .foldlM (fun b enum hb => writeEnum_writes enum hb) d.enums.zipIdx h
  rw [flatMap_zipIdx fun enum : List Declaration => enum.flatMap (declarationUses .enumMember)]
    at henums
  refine henums.bind fun b₁ hb₁ => ?_
  have hblank : (if d.fields.isEmpty then b₁ else b₁.write (·.row [])).stage = .bodyOpen := by
    split <;> exact hb₁
  have hfields : Writes style (d.fields.flatMap fun f => declarationUses (fieldFragment f) f)
      .bodyOpen (d.fields.foldlM (fun b f => writeDeclaration style (fieldFragment f) b f)
        (if d.fields.isEmpty then b₁ else b₁.write (·.row []))) :=
    .foldlM (fun b f hb => writeDeclaration_writes (fieldFragment f) f hb) d.fields hblank
  exact hfields.andThen fun b₂ hb₂ => .advance hb₂ rfl (by decide)

theorem writeAccessor_writes (f : Declaration) (h : b.stage = s) :
    Writes style [(accessorFragment f, [])] s (writeAccessor style b f) :=
  .fragment fun _ => .done h

theorem writeAccessors_writes (h : b.stage = .fieldsEmitted) :
    Writes style (d.fields.flatMap fun f => [(accessorFragment f, [])]) .accessorsEmitted
      (writeAccessors style d b) := by
  have haccessors : Writes style (d.fields.flatMap fun f => [(accessorFragment f, [])])
      .fieldsEmitted (d.fields.foldlM (writeAccessor style) b) :=
    .foldlM (fun b f hb => writeAccessor_writes f hb) d.fields h
  exact haccessors.andThen fun b₁ hb₁ => .advance hb₁ rfl (by decide)

theorem writeIdentityMethod_writes (items : List Text) (fragment : Fragment) (separator : Text)
    (h : b.stage = s) :
    Writes style [(fragment, [])] s (writeIdentityMethod style items fragment separator b) := by
  refine .fragment fun t => ?_
  split <;> exact .done h

theorem writeIdentityMethods_writes (h : b.stage = .accessorsEmitted) :
    Writes style identityUses .identityMethodsEmitted (writeIdentityMethods style d b) :=
  (writeIdentityMethod_writes _ .hashCode _ h).bind fun _ h₁ =>
    (writeIdentityMethod_writes _ .equals _ h₁).bind fun _ h₂ =>
      (writeIdentityMethod_writes _ .toText _ h₂).bind fun _ h₃ => .advance h₃ rfl (by decide)

theorem closeBody_writes (h : b.stage = .identityMethodsEmitted) :
    Writes style [] .bodyClosed (closeBody b) := .advance h rfl (by decide)

/-- **The sections come in the order of the stages**, each from the stage that the one before it
has come to. -/
theorem writeSections_writes (style : Style) (d : Definition) (sum : Option Text)
    (h : b.stage = .start) :
    Writes style (uses style d) .bodyClosed (writeSections style d sum b) := by
  refine (writeHeader_writes h).bind fun b₁ h₁ => ?_
  refine (writePackage_writes h₁).bind fun b₂ h₂ => ?_
  refine (writeImports_writes h₂).bind fun b₃ h₃ => ?_
  refine (writeClassComment_writes h₃).bind fun b₄ h₄ => ?_
  refine (writeMetadata_writes sum h₄).bind fun b₅ h₅ => ?_
  have hnamed : (b₅.put "className" b₅.className).stage = .metadataEmitted := h₅
  refine (openBody_writes hnamed).bind fun b₆ h₆ => ?_
  refine (writeFields_writes h₆).bind fun b₇ h₇ => ?_
  refine (writeAccessors_writes h₇).bind fun b₈ h₈ => ?_
  exact (writeIdentityMethods_writes h₈).andThen fun b₉ h₉ => closeBody_writes h₉

/-! ## The whole class -/

theorem stage_named (className : Text) (d : Definition) (sum : Option Text) :
    (named d sum { className }).stage = .start := (built_named className d sum).stage

/-- **A class fails as the first of its fragments that fails.** -/
theorem build_eq_error {error : TemplateError} (h : style.fault? (uses style d) = some error)
    (checksum : Option Text) (className : Text) :
    build style d checksum { className } = .error (.template error) := by
  rw [build_eq, (writeSections_writes style d _ (stage_named className d _)).fails error h]
  rfl

/-- **If no fragment fails, the class is complete.** -/
theorem build_eq_ok (h : style.fault? (uses style d) = none) (checksum : Option Text)
    (className : Text) : ∃ b text, build style d checksum { className } = .ok (b, text) ∧
      b.stage = .globalSubstituted := by
  have hstart := stage_named className d (checksum.filter (!·.isEmpty))
  obtain ⟨b₁, h₁, hb₁⟩ := (writeSections_writes style d _ hstart).ends h
  have hlast : b₁.advance .globalSubstituted = .ok { b₁ with stage := .globalSubstituted } :=
    Build.advance_eq_ok (hb₁ ▸ rfl) (hb₁ ▸ by decide)
  refine ⟨{ b₁ with stage := .globalSubstituted },
    Placeholder.substitute b₁.values b₁.writer.text, ?_, rfl⟩
  rw [build_eq, h₁]
  simp only [bind, Except.bind, hlast]
  rfl

/-- **How a class ends**: with the fault of a fragment, or complete. -/
theorem build_cases (style : Style) (d : Definition) (checksum : Option Text) (className : Text) :
    (∃ error, build style d checksum { className } = .error (.template error)) ∨
      ∃ b text, build style d checksum { className } = .ok (b, text) ∧
        b.stage = .globalSubstituted := by
  cases h : style.fault? (uses style d) with
  | some error => exact .inl ⟨error, build_eq_error h checksum className⟩
  | none => exact .inr (build_eq_ok h checksum className)

theorem template_of_build {checksum : Option Text} {className : Text} {e : Failure}
    (h : build style d checksum { className } = .error e) : ∃ error, e = .template error := by
  rcases build_cases style d checksum className with ⟨error, h'⟩ | ⟨b, text, h', -⟩
  · rw [h] at h'
    cases h'
    exact ⟨error, rfl⟩
  · rw [h] at h'
    cases h'

/-- A class whose text is complete is ready to be written to its file. -/
theorem stage_of_build {checksum : Option Text} {className text : Text}
    (h : build style d checksum { className } = .ok (b, text)) : b.stage = .globalSubstituted := by
  rcases build_cases style d checksum className with ⟨error, h'⟩ | ⟨b', text', h', hstage⟩
  · rw [h] at h'
    cases h'
  · rw [h] at h'
    cases h'
    exact hstage

/-- The packaged fragments never fail. -/
theorem Style.IsPackaged.fault?_uses (hp : style.IsPackaged) (d : Definition) :
    style.fault? (uses style d) = none := by
  cases h : style.fault? (uses style d) with
  | none => rfl
  | some error =>
    obtain ⟨built, hok⟩ := build_packaged hp d none []
    rw [build_eq_error h] at hok
    cases hok

end RosBindings.JavaClass

import RosBindings.Proofs.Isolation

/-!
# Stages only move forward

A class can be asked for any stage at any time. It refuses what it cannot do and stays as it is,
so that the stages it has been through are always in their order, and a final one is the last.

* `Stage.Blocks` says which stages cannot follow which, and `Build.ask_cases` what comes of asking a
  class for one, and of the class.
* `Build.askEach` is a class after several calls, and `Build.reached` are the stages of those that
  succeeded.
* `pairwise_reached`: every stage reached is later than those before it, none of which is final.
* `stages_move_forward`: this together with the writing of a class, which never asks for a stage
  that is refused.
-/

namespace RosBindings

/-! ## One call -/

namespace Stage

variable {s t : Stage}

/-- Whether a class at a stage refuses another one: its own is final, or the other one is neither
later nor that of a class that is skipped. -/
def Blocks (s t : Stage) : Prop := s.isFinal = true ∨ t ≠ .skipped ∧ t.rank ≤ s.rank

theorem rank_lt_written (h : s.isFinal = false) : s.rank < written.rank := by
  cases s with
  | written | skipped => cases h
  | _ => decide

/-- Skipping is no exception to the order: it comes after all stages that are not final. -/
theorem not_blocks_iff : ¬ s.Blocks t ↔ s.isFinal = false ∧ s.rank < t.rank := by
  have hskipped : s.isFinal = false → t = .skipped → s.rank < t.rank := by
    rintro hfinal rfl
    exact (rank_lt_written hfinal).trans (by decide)
  unfold Blocks
  grind

end Stage

namespace JavaClass.Build

variable {b : Build} {s : Stage} {calls : List Stage}

/-- **What comes of asking a class for a stage**, and how the class is left. -/
theorem ask_cases (b : Build) (s : Stage) :
    (b.stage.Blocks s ∧ ∃ error, b.ask s = (.error (.stage error), b)) ∨
      (¬ b.stage.Blocks s ∧ b.ask s = (.ok (), { b with stage := s })) := by
  unfold ask Stage.advance
  by_cases hfinal : b.stage.isFinal = true
  · rw [if_pos hfinal]
    exact .inl ⟨.inl hfinal, _, rfl⟩
  · rw [if_neg hfinal]
    by_cases hback : s ≠ .skipped ∧ s.rank ≤ b.stage.rank
    · rw [if_pos hback]
      exact .inl ⟨.inr hback, _, rfl⟩
    · rw [if_neg hback]
      exact .inr ⟨not_or.2 ⟨hfinal, hback⟩, rfl⟩

theorem advance_eq_ok_iff {b' : Build} : b.advance s = .ok b' ↔ b.ask s = (.ok (), b') := by
  unfold advance
  rcases ask_cases b s with ⟨-, error, hask⟩ | ⟨-, hask⟩ <;> simp [hask]

theorem advance_eq_error_iff {e : Failure} : b.advance s = .error e ↔ b.ask s = (.error e, b) := by
  unfold advance
  rcases ask_cases b s with ⟨-, error, hask⟩ | ⟨-, hask⟩ <;> simp [hask]

theorem eq_of_advance {b' : Build} (h : b.advance s = .ok b') : b' = { b with stage := s } := by
  rw [advance_eq_ok_iff] at h
  rcases ask_cases b s with ⟨-, e, hask⟩ | ⟨-, hask⟩
  · rw [hask] at h
    cases h
  · rw [hask] at h
    exact (Prod.mk.inj h).2.symm

theorem stage_of_error {e : Failure} (h : b.advance s = .error e) : ∃ error, e = .stage error := by
  rw [advance_eq_error_iff] at h
  rcases ask_cases b s with ⟨-, error, hask⟩ | ⟨-, hask⟩
  · rw [hask] at h
    exact ⟨error, (Except.error.inj (Prod.mk.inj h).1).symm⟩
  · rw [hask] at h
    cases h

theorem advance_error_iff : (∃ e, b.advance s = .error e) ↔ b.stage.Blocks s := by
  simp only [advance_eq_error_iff]
  rcases ask_cases b s with ⟨hblocks, error, hask⟩ | ⟨hfree, hask⟩
  · exact iff_of_true ⟨_, hask⟩ hblocks
  · exact iff_of_false (by simp [hask]) hfree

/-! ## Calls one after the other -/

/-- A class after several calls, of which some may fail. -/
def askEach (b : Build) (calls : List Stage) : Build := calls.foldl (fun b s => (b.ask s).2) b

/-- The stages of the calls that succeed. -/
def reached : Build → List Stage → List Stage
  | _, [] => []
  | b, s :: calls =>
    match b.ask s with
    | (.ok (), b') => s :: b'.reached calls
    | (.error _, b') => b'.reached calls

theorem askEach_concat (b : Build) (calls : List Stage) (s : Stage) :
    b.askEach (calls ++ [s]) = ((b.askEach calls).ask s).2 := List.foldl_append

theorem reached_append (b : Build) (calls later : List Stage) :
    b.reached (calls ++ later) = b.reached calls ++ (b.askEach calls).reached later := by
  induction calls generalizing b with
  | nil => rfl
  | cons s calls ih =>
    have heach : b.askEach (s :: calls) = (b.ask s).2.askEach calls := rfl
    rw [List.cons_append, reached, reached, heach]
    obtain ⟨result, b'⟩ := b.ask s
    cases result with
    | ok => exact congrArg (s :: ·) (ih b')
    | error e => exact ih b'

theorem concat_of_error {e : Failure} (h : (b.askEach calls).advance s = .error e) :
    b.askEach (calls ++ [s]) = b.askEach calls ∧ b.reached (calls ++ [s]) = b.reached calls := by
  rw [askEach_concat, reached_append, reached, advance_eq_error_iff.1 h]
  exact ⟨rfl, List.append_nil _⟩

theorem concat_of_ok {b' : Build} (h : (b.askEach calls).advance s = .ok b') :
    b.askEach (calls ++ [s]) = b' ∧ b.reached (calls ++ [s]) = b.reached calls ++ [s] := by
  rw [askEach_concat, reached_append, reached, advance_eq_ok_iff.1 h]
  exact ⟨rfl, rfl⟩

/-- **Whatever is reached is later**, and nothing is reached from a final stage. -/
theorem of_mem_reached (h : s ∈ b.reached calls) : b.stage.isFinal = false ∧ b.stage.rank < s.rank := by
  induction calls generalizing b with
  | nil => cases h
  | cons t calls ih =>
    rw [reached] at h
    rcases ask_cases b t with ⟨-, e, hask⟩ | ⟨hfree, hok⟩
    · rw [hask] at h
      exact ih h
    · obtain ⟨hfinal, hlt⟩ := Stage.not_blocks_iff.1 hfree
      rw [hok] at h
      rcases List.mem_cons.1 h with rfl | hlater
      · exact ⟨hfinal, hlt⟩
      · exact ⟨hfinal, hlt.trans (ih hlater).2⟩

/-- **The stages reached are in their order**, and all but the last of them go on. -/
theorem pairwise_reached (b : Build) (calls : List Stage) :
    (b.reached calls).Pairwise fun s t => s.isFinal = false ∧ s.rank < t.rank := by
  induction calls generalizing b with
  | nil => exact .nil
  | cons s calls ih =>
    rw [reached]
    rcases ask_cases b s with ⟨-, e, hask⟩ | ⟨-, hok⟩
    · rw [hask]
      exact ih b
    · rw [hok]
      exact .cons (fun t ht => of_mem_reached ht) (ih _)

theorem eq_nil_of_reached {before later : List Stage}
    (h : b.reached calls = before ++ s :: later) (hs : s.isFinal = true) : later = [] := by
  have hpairs := pairwise_reached b calls
  rw [h] at hpairs
  have hrest := (List.pairwise_cons.1 (List.pairwise_append.1 hpairs).2.1).1
  refine List.eq_nil_iff_forall_not_mem.2 fun t ht => ?_
  rw [(hrest t ht).1] at hs
  cases hs

theorem countP_reached_le_one (b : Build) (calls : List Stage) :
    (b.reached calls).countP Stage.isFinal ≤ 1 := by
  have hpairs := pairwise_reached b calls
  generalize b.reached calls = ss at hpairs
  induction hpairs with
  | nil => exact Nat.zero_le 1
  | @cons s ss hs _ ih =>
    cases ss with
    | nil => exact List.countP_le_length
    | cons t ss =>
      have hgoes : s.isFinal = false := (hs t List.mem_cons_self).1
      rwa [List.countP_cons_of_neg (by simp [hgoes])]

end JavaClass.Build

/-! ## Generation -/

namespace Generator

/-- Whether a failure is the refusal of a stage. -/
def isOfStage : Failure → Bool
  | .stage _ => true
  | _ => false

theorem readUnder_notOfStage (runtime : Setting) (lines : List Text) (name : Text) :
    FailsBy (isOfStage · = false) (readUnder runtime lines name) := by
  cases runtime with
  | word package =>
    rw [readUnder_word]
    cases Definition.parse lines name package with
    | ok d => exact .ok d
    | error e => exact .error rfl
  | empty =>
    unfold readUnder readUntyped
    simp only
    split
    · exact .ok _
    · split
      · exact .error rfl
      · split <;> exact .error rfl

theorem draft_notOfStage (g : Generator) (files : FileTree) (identifier : Text) :
    FailsBy (isOfStage · = false) (g.draft files identifier).outcome := by
  have hsource : ∀ {noText : Prop} (e : Failure), g.source.Refuses identifier noText e →
      isOfStage e = false := by
    rintro noText e (_ | _ | _) <;> rfl
  rw [draft_outcome]
  refine FailsBy.bind (fun e h => hsource e (g.source.readLines_failsBy _ _ e h)) fun lines => ?_
  refine (readUnder_notOfStage _ _ _).bind fun d => ?_
  refine FailsBy.bind (fun e h => hsource e (g.source.checksum_failsBy _ _ e h)) fun checksum => ?_
  intro e he
  obtain ⟨error, rfl⟩ := JavaClass.template_of_build he
  rfl

/-- **No class is ever refused a stage**, be it while its text is written or when its file is. -/
theorem generate_notOfStage (g : Generator) (files : FileTree) (identifier : Text) :
    FailsBy (isOfStage · = false) (g.generate files identifier).result := by
  have hspec := g.generate_spec files identifier
  generalize (g.generate files identifier).result = result at hspec ⊢
  generalize (g.generate files identifier).files = after at hspec
  cases hspec with
  | unclear | refused => exact .error rfl
  | present | written => exact .ok _
  | undrafted e _ hd => exact .error (draft_notOfStage g files identifier e hd)

end Generator

/-! ## Classes from their first stage to their last -/

open JavaClass

/-- **Stages only move forward.** Ask a fresh class for stages, as often as you like. The stages of
the calls that succeed come in their order; at most one of them is final, and it is the last. A
call fails if and only if the present stage is final, or the one asked for is neither later nor
that of a class that is skipped; then the class stays as it is. The writing of a class, with
fragments of whatever kind, never fails for its stage: if its fragments can be written, its text
is complete and it can go on to be written to its file. So no message that is generated fails for
the stage of its class. -/
theorem stages_move_forward (className : Text) :
    let fresh : Build := { className }
    (∀ calls : List Stage,
      ((fresh.reached calls).map Stage.rank).Pairwise (· < ·) ∧
      (fresh.reached calls).countP Stage.isFinal ≤ 1 ∧
      ∀ before s later, fresh.reached calls = before ++ s :: later → s.isFinal = true →
        later = []) ∧
    (∀ (done : List Stage) (s : Stage),
      let b := fresh.askEach done
      ((∃ e, b.advance s = .error e) ↔
        b.stage.isFinal = true ∨ s ≠ .skipped ∧ s.rank ≤ b.stage.rank) ∧
      (∀ e, b.advance s = .error e → (∃ error, e = .stage error) ∧ b.ask s = (.error e, b) ∧
        fresh.askEach (done ++ [s]) = b ∧ fresh.reached (done ++ [s]) = fresh.reached done) ∧
      ∀ b', b.advance s = .ok b' → b.ask s = (.ok (), b') ∧
        fresh.askEach (done ++ [s]) = b' ∧ b' = { b with stage := s } ∧
        fresh.reached (done ++ [s]) = fresh.reached done ++ [s]) ∧
    (∀ (style : Style) (d : Definition) (checksum : Option Text),
      (∀ e, build style d checksum fresh ≠ .error (.stage e)) ∧
      ((∀ u ∈ uses style d, ∃ t, style.fragments u.1 u.2 = .ok t) →
        ∃ b text, build style d checksum fresh = .ok (b, text) ∧ b.stage = .globalSubstituted ∧
          b.advance .written = .ok { b with stage := .written })) ∧
    ∀ (g : Generator) (files : FileTree) (identifier : Text) (e : StageError),
      (g.generate files identifier).result ≠ .error (.stage e) := by
  intro fresh
  refine ⟨fun calls => ⟨?_, fresh.countP_reached_le_one calls,
    fun before s later => Build.eq_nil_of_reached⟩, fun done s => ?_,
    fun style d checksum => ⟨fun e h => ?_, fun hrender => ?_⟩, fun g files identifier e h => ?_⟩
  · exact List.pairwise_map.2 ((fresh.pairwise_reached calls).imp And.right)
  · refine ⟨Build.advance_error_iff, fun e he => ⟨Build.stage_of_error he,
      Build.advance_eq_error_iff.1 he, Build.concat_of_error he⟩, fun b' hb' => ?_⟩
    obtain ⟨heach, hreached⟩ := Build.concat_of_ok hb'
    exact ⟨Build.advance_eq_ok_iff.1 hb', heach, Build.eq_of_advance hb', hreached⟩
  · obtain ⟨error, herror⟩ := template_of_build h
    cases herror
  · obtain ⟨b, text, hbuild, hstage⟩ :=
      build_eq_ok (Style.fault?_eq_none_iff.2 hrender) checksum className
    exact ⟨b, text, hbuild, hstage, Generator.advance_written hstage⟩
  · cases g.generate_notOfStage files identifier _ h

/-- A class that is skipped after two sections, asked for an earlier stage before and for a later
one afterwards; and a class with a commented field, which is written to its end. -/
theorem stages_move_forward_skipped :
    let fresh : Build := { className := "AMessage" }
    let calls : List Stage := [.headerEmitted, .packageEmitted, .headerEmitted, .skipped, .written]
    let style := Style.packaged "org.example" "id.jrosmessages" .ros1 ⟨[], []⟩
    let d : Definition :=
      { name := "p/A", fields := [⟨"x", "int8", ⟨.primitive, "byte", none, .single⟩, [], "No."⟩] }
    fresh.reached calls = [.headerEmitted, .packageEmitted, .skipped] ∧
      (fresh.askEach calls).stage = .skipped ∧
      ((fresh.reached calls).map Stage.rank).Pairwise (· < ·) ∧
      (∀ u ∈ uses style d, ∃ t, style.fragments u.1 u.2 = .ok t) ∧
      ∃ b text, build style d none fresh = .ok (b, text) ∧ b.stage = .globalSubstituted ∧
        b.advance .written = .ok { b with stage := .written } := by
  intro fresh calls style d
  obtain ⟨hcalls, -, hbuild, -⟩ := stages_move_forward "AMessage"
  have hrender : ∀ u ∈ uses style d, ∃ t, style.fragments u.1 u.2 = .ok t :=
    Style.fault?_eq_none_iff.1 (Style.IsPackaged.fault?_uses ⟨_, rfl⟩ d)
  exact ⟨rfl, rfl, (hcalls calls).1, hrender, (hbuild style d none).2 hrender⟩

end RosBindings

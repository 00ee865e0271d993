import Mathlib.Data.List.Infix
import RosBindings.CodeWriter
import RosBindings.Proofs.Text

/-!
# Indentation is compositional

What is written inside of open blocks is what would be written outside of them, with the
indentation of these blocks in front of every row that is not empty.

* `Call` is one use of a writer, and `run` uses it several times.
* `appended`: the rows that calls add, each at the depth it stands at.
* `appended_shift`: calls that leave no block they have not entered add the same rows at every
  level, only deeper.
-/

namespace RosBindings.CodeWriter

/-- One use of a writer. -/
inductive Call
  | row (r : Text)
  | block (t : Text)
  | openBlock (r : Text)
  | closeBlock (r : Text)

namespace Call

/-- Carries out a call. -/
def perform : Call → CodeWriter → CodeWriter
  | .row r, w => w.row r
  | .block t, w => w.block t
  | .openBlock r, w => w.openBlock r
  | .closeBlock r, w => w.closeBlock r

/-- Whether a call opens a block. -/
def isOpening : Call → Bool
  | .openBlock _ => true
  | _ => false

/-- Whether a call closes a block. -/
def isClosing : Call → Bool
  | .closeBlock _ => true
  | _ => false

/-- The rows of a call. -/
def rows : Call → List Text
  | .row r | .openBlock r | .closeBlock r => [r]
  | .block t => Text.rows t

/-- The level at which the rows of a call stand: one that closes a block stands outside of it. -/
def depth (c : Call) (level : ℕ) : ℕ := if c.isClosing then level - 1 else level

/-- The level after a call. -/
def levelAfter (c : Call) (level : ℕ) : ℕ := if c.isOpening then level + 1 else c.depth level

/-- **What one call does.** -/
theorem perform_eq (c : Call) (w : CodeWriter) :
    c.perform w =
      { unit := w.unit, level := c.levelAfter w.level,
        written := w.written ++ c.rows.map (indent w.unit (c.depth w.level)) } := by
  cases c <;> rfl

end Call

/-- Carries out several calls, one after the other. -/
def run (calls : List Call) (w : CodeWriter) : CodeWriter := calls.foldl (fun w c => c.perform w) w

/-- The number of blocks that calls open. -/
def opens (calls : List Call) : ℕ := calls.countP Call.isOpening

/-- The number of blocks that calls close. -/
def closes (calls : List Call) : ℕ := calls.countP Call.isClosing

/-- Whether calls inside of a number of blocks leave none but these and the ones they open. -/
def NestedIn (level : ℕ) (calls : List Call) : Prop :=
  ∀ done, done <+: calls → closes done ≤ level + opens done

variable {c : Call} {calls : List Call} {n : ℕ}

theorem opens_append (calls later : List Call) :
    opens (calls ++ later) = opens calls + opens later := List.countP_append

theorem closes_append (calls later : List Call) :
    closes (calls ++ later) = closes calls + closes later := List.countP_append

/-! ## Levels -/

theorem NestedIn.head (h : NestedIn n (c :: calls)) : c.isClosing = true → 0 < n := by
  intro hclose
  cases c with
  | row r | block t | openBlock r => cases hclose
  | closeBlock r =>
    have hcount : 1 ≤ n + 0 := h [.closeBlock r] (List.prefix_append [.closeBlock r] calls)
    omega

theorem NestedIn.levelAfter (h : NestedIn n (c :: calls)) :
    c.levelAfter n + closes [c] = n + opens [c] := by
  have hpos := h.head
  cases c with
  | row r => rfl
  | block t => rfl
  | openBlock r => rfl
  | closeBlock r =>
    have hn : 0 < n := hpos rfl
    change n - 1 + 1 = n + 0
    omega

theorem NestedIn.tail (h : NestedIn n (c :: calls)) : NestedIn (c.levelAfter n) calls := by
  intro done hdone
  have hcount := h (c :: done) (List.cons_prefix_cons.2 ⟨rfl, hdone⟩)
  have hafter := h.levelAfter
  have hcloses : closes (c :: done) = closes [c] + closes done := closes_append [c] done
  have hopens : opens (c :: done) = opens [c] + opens done := opens_append [c] done
  omega

theorem NestedIn.earlier {done : List Call} (h : NestedIn n calls) (hdone : done <+: calls) :
    NestedIn n done := fun first hfirst => h first (hfirst.trans hdone)

/-- **The level counts the open blocks.** -/
theorem level_run {w : CodeWriter} (h : NestedIn w.level calls) :
    (run calls w).level + closes calls = w.level + opens calls := by
  induction calls generalizing w with
  | nil => rfl
  | cons c calls ih =>
    have hlevel : (c.perform w).level = c.levelAfter w.level := by rw [Call.perform_eq]
    have hrest : (run calls (c.perform w)).level + closes calls =
        (c.perform w).level + opens calls := ih (by rw [hlevel]; exact h.tail)
    have hafter := h.levelAfter
    have hcloses : closes (c :: calls) = closes [c] + closes calls := closes_append [c] calls
    have hopens : opens (c :: calls) = opens [c] + opens calls := opens_append [c] calls
    change (run calls (c.perform w)).level + closes (c :: calls) = w.level + opens (c :: calls)
    omega

/-! ## Rows -/

/-- The rows that calls add at a level. -/
def appended (unit : Text) : ℕ → List Call → List Text
  | _, [] => []
  | n, c :: calls =>
    c.rows.map (indent unit (c.depth n)) ++ appended unit (c.levelAfter n) calls

theorem written_run (calls : List Call) (w : CodeWriter) :
    (run calls w).written = w.written ++ appended w.unit w.level calls := by
  induction calls generalizing w with
  | nil => exact (List.append_nil _).symm
  | cons c calls ih =>
    have hrun : run (c :: calls) w = run calls (c.perform w) := rfl
    rw [hrun, ih, Call.perform_eq, appended, List.append_assoc]

theorem unit_run (calls : List Call) (w : CodeWriter) : (run calls w).unit = w.unit := by
  induction calls generalizing w with
  | nil => rfl
  | cons c calls ih =>
    have hrun : run (c :: calls) w = run calls (c.perform w) := rfl
    rw [hrun, ih, Call.perform_eq]

/-- **The rows of a call stand as deep as blocks are open around it**, one that it closes not
among them. -/
theorem written_run_concat {done : List Call} {w : CodeWriter}
    (h : NestedIn w.level (done ++ [c])) :
    (run (done ++ [c]) w).written = (run done w).written
      ++ c.rows.map (indent w.unit (w.level + opens done - closes (done ++ [c]))) := by
  have hlevel := level_run (h.earlier (List.prefix_append done [c]))
  have hdepth : c.depth (run done w).level = w.level + opens done - closes (done ++ [c]) := by
    have hcloses := closes_append done [c]
    cases c with
    | row r | block t | openBlock r =>
      have hnone : closes (done ++ [_]) = closes done + 0 := hcloses
      change (run done w).level = _
      omega
    | closeBlock r =>
      have hone : closes (done ++ [_]) = closes done + 1 := hcloses
      change (run done w).level - 1 = _
      omega
  have hrun : run (done ++ [c]) w = c.perform (run done w) := List.foldl_append
  rw [hrun, Call.perform_eq, unit_run, hdepth]

/-- Rows at a depth, put deeper. -/
theorem indent_add (unit : Text) (k n : ℕ) (r : Text) :
    indent unit (k + n) r = indent unit k (indent unit n r) := by
  cases r with
  | nil => rfl
  | cons c r =>
    have hne : ((List.replicate n unit).flatten ++ c :: r).isEmpty = false := by simp
    simp only [indent, List.isEmpty_cons, Bool.false_eq_true, if_false, hne, List.replicate_add,
      List.flatten_append, List.append_assoc]

/-- **Calls add the same rows at every level, only deeper**, as long as they leave no block that
they have not entered. -/
theorem appended_shift (unit : Text) (k : ℕ) (h : NestedIn n calls) :
    appended unit (k + n) calls = (appended unit n calls).map (indent unit k) := by
  induction calls generalizing n with
  | nil => rfl
  | cons c calls ih =>
    -- a level is never cut off at zero, so that it may as well be counted from further out
    have hdepth : c.depth (k + n) = k + c.depth n := by
      have hpos := h.head
      unfold Call.depth
      split
      · next hclose =>
        have hn := hpos hclose
        omega
      · rfl
    have hafter : c.levelAfter (k + n) = k + c.levelAfter n := by
      rw [Call.levelAfter, Call.levelAfter, hdepth]
      split <;> omega
    have hrows : indent unit (k + c.depth n) = indent unit k ∘ indent unit (c.depth n) :=
      funext (indent_add unit k (c.depth n))
    rw [appended, appended, hdepth, hafter, ih h.tail, hrows, List.map_append, List.map_map]

/-- A block of two texts is the two blocks. -/
theorem block_append (w : CodeWriter) (a b : Text) :
    w.block (a ++ '\n' :: b) = (w.block a).block b := by
  rw [block, Text.rows_append_newline, List.map_append, ← List.append_assoc]
  rfl

/-- **Indentation is compositional.** Take calls of which none leaves a block that they have not
entered. On a writer at any level they add the rows that they would write on a fresh one, with
the indentation of the level in front of every row that is not empty; and they raise the level by
the blocks they open and lower it by those they close. The rows of a single call stand as deep as
blocks are open around it, one that it closes not among them. A block of two texts one below the
other is the same as the two blocks. -/
theorem indentation_compositional (w : CodeWriter) (calls : List Call) (h : NestedIn 0 calls) :
    let fresh : CodeWriter := { unit := w.unit }
    (run calls w).written = w.written ++ (run calls fresh).written.map (fun line =>
      if line = [] then [] else (List.replicate w.level w.unit).flatten ++ line) ∧
    ((run calls w).level : ℤ) = w.level + opens calls - closes calls ∧
    (∀ done c, done ++ [c] <+: calls → (run (done ++ [c]) w).written = (run done w).written
      ++ c.rows.map (indent w.unit (w.level + opens done - closes (done ++ [c])))) ∧
    ∀ a b : Text, w.block (a ++ '\n' :: b) = (w.block a).block b := by
  intro fresh
  have hlevels : NestedIn w.level calls := fun done hdone => by
    have hcount := h done hdone
    omega
  refine ⟨?_, ?_, ?_, block_append w⟩
  · have hindent : indent w.unit w.level = fun line =>
        if line = [] then [] else (List.replicate w.level w.unit).flatten ++ line := by
      funext line
      simp only [indent, List.isEmpty_iff]
    rw [← hindent, written_run, written_run]
    exact congrArg (w.written ++ ·) (appended_shift w.unit w.level h)
  · have hlevel := level_run hlevels
    omega
  · intro done c hdone
    exact written_run_concat (hlevels.earlier hdone)

/-- A nested enumeration with an empty row in it, two levels deep. -/
theorem indentation_compositional_enum :
    let calls : List Call :=
      [.openBlock "public enum A \x7b", .block "LOW,\n\nHIGH,", .closeBlock "\x7d", .row []]
    let w : CodeWriter := { unit := "\t", level := 2, written := ["class B \x7b"] }
    let lines : List Text :=
      ["class B \x7b", "\t\tpublic enum A \x7b", "\t\t\tLOW,", "", "\t\t\tHIGH,", "\t\t\x7d", ""]
    NestedIn 0 calls ∧ (run calls w).written = lines ∧ (run calls w).level = 2 := by
  intro calls w lines
  have hnested : NestedIn 0 calls := by
    intro done hdone
    have hall : ∀ done ∈ calls.inits, closes done ≤ opens done := by decide
    have hcount := hall done ((List.mem_inits done calls).2 hdone)
    omega
  obtain ⟨hwritten, hlevel, -, -⟩ := indentation_compositional w calls hnested
  refine ⟨hnested, hwritten.trans (by decide), ?_⟩
  have hcounts : opens calls = 1 ∧ closes calls = 1 := by decide
  rw [hcounts.1, hcounts.2] at hlevel
  change ((run calls w).level : ℤ) = 2 + 1 - 1 at hlevel
  omega

end RosBindings.CodeWriter

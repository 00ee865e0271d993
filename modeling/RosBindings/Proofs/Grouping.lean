import Mathlib.Data.List.Induction
import Mathlib.Data.List.Perm.Basic
import Mathlib.Order.Bounds.Basic
import RosBindings.Proofs.Reading

/-!
# Enumerations are greedy chains

Constants are sorted in one scan. What the scan makes of them is said here by positions,
without the scan: the enumeration opened by a zero at `z` goes on with the first 1 after
`z`, the first 2 after that, and so on, up to the next zero.

* `Members cs z ms`: the positions `ms` are those of the enumeration opened at `z`.
* `Arranged cs fields enums`: there is one enumeration for each zero, in order, and the
  fields are what is left, in order.
* `Tracks`: the invariant of the scan, with the positions of the closed enumerations and
  of the open one.
* `arranged_ofList`: the scan arranges its constants.
-/

namespace RosBindings.Grouping

variable {cs : List Constant} {c : Constant} {g : Grouping} {z m n p : ℕ} {ms : List ℕ}

/-- The integer at a position, if there is one. -/
def valueAt (cs : List Constant) (p : ℕ) : Option ℕ := cs[p]?.bind Constant.intValue

/-- The declaration at a position. -/
def declarationAt (cs : List Constant) (p : ℕ) : Option Declaration :=
  cs[p]?.map Constant.declaration

/-- The positions of the zeros, in order. -/
def zeros (cs : List Constant) : List ℕ :=
  (List.range cs.length).filter fun p => valueAt cs p = some 0

/-- The constant `n` is at `p`, after `m` and before the next zero behind `z`. -/
structure Follows (cs : List Constant) (z m n p : ℕ) : Prop where
  after : m < p
  value : valueAt cs p = some n
  beforeZero : ∀ q, z < q → q ≤ p → valueAt cs q ≠ some 0

/-- **The members of the enumeration opened at `z`**, by their positions: after the
`j`-th one comes the first `j + 1` before the next zero, until there is none. -/
structure Members (cs : List Constant) (z : ℕ) (ms : List ℕ) : Prop where
  zero : valueAt cs z = some 0
  opens : ms.head? = some z
  next : ∀ j m m', ms[j]? = some m → ms[j + 1]? = some m' →
    IsLeast {p | Follows cs z m (j + 1) p} m'
  ends : ∀ m, ms.getLast? = some m → ∀ p, ¬ Follows cs z m ms.length p

/-- The positions below `n` that are in no enumeration. -/
def outside (n : ℕ) (mss : List (List ℕ)) : List ℕ :=
  (List.range n).filter fun p => p ∉ mss.flatten

/-- **Constants sorted into fields and enumerations.** The enumerations belong to the zeros
in order; every constant outside them is a field. -/
structure Arranged (cs : List Constant) (fields : List Declaration)
    (enums : List (List Declaration)) : Prop where
  positions : ∃ mss : List (List ℕ), List.Forall₂ (Members cs) (zeros cs) mss ∧
    enums.map (·.map some) = mss.map (·.map (declarationAt cs)) ∧
    fields.map some = (outside cs.length mss).map (declarationAt cs)

theorem valueAt_append_lt (h : p < cs.length) : valueAt (cs ++ [c]) p = valueAt cs p := by
  unfold valueAt; rw [List.getElem?_append_left h]

theorem valueAt_append_length : valueAt (cs ++ [c]) cs.length = c.intValue := by
  simp [valueAt]

theorem lt_of_valueAt (h : valueAt cs p = some n) : p < cs.length := by
  by_contra hp
  rw [valueAt, List.getElem?_eq_none (by omega)] at h
  simp at h

theorem declarationAt_append_lt (h : p < cs.length) :
    declarationAt (cs ++ [c]) p = declarationAt cs p := by
  unfold declarationAt; rw [List.getElem?_append_left h]

theorem declarationAt_append_length : declarationAt (cs ++ [c]) cs.length = some c.declaration := by
  simp [declarationAt]

theorem zeros_append : zeros (cs ++ [c]) =
    zeros cs ++ if c.intValue = some 0 then [cs.length] else [] := by
  have hold : (List.range cs.length).filter (fun p => valueAt (cs ++ [c]) p = some 0) =
      zeros cs := by
    apply List.filter_congr
    intro p hp
    rw [valueAt_append_lt (List.mem_range.1 hp)]
  unfold zeros at hold ⊢
  rw [List.length_append, List.length_singleton, List.range_succ, List.filter_append, hold]
  by_cases h : c.intValue = some 0 <;> simp [valueAt_append_length, h]

theorem mem_zeros : p ∈ zeros cs ↔ valueAt cs p = some 0 := by
  simp only [zeros, List.mem_filter, List.mem_range, decide_eq_true_eq, and_iff_right_iff_imp]
  exact lt_of_valueAt

theorem zeros_sorted : (zeros cs).Pairwise (· < ·) := List.pairwise_lt_range.filter _

/-- One more constant takes nothing away from what follows a member. -/
theorem Follows.append (h : Follows cs z m n p) : Follows (cs ++ [c]) z m n p := by
  have hp := lt_of_valueAt h.value
  refine ⟨h.after, by rw [valueAt_append_lt hp]; exact h.value, fun q hz hq => ?_⟩
  rw [valueAt_append_lt (by omega)]
  exact h.beforeZero q hz hq

/-- What follows a member follows it already without the last constant, or is the last
constant. -/
theorem Follows.of_append (h : Follows (cs ++ [c]) z m n p) :
    Follows cs z m n p ∨ p = cs.length := by
  have hp := lt_of_valueAt h.value
  rw [List.length_append, List.length_singleton] at hp
  rcases Nat.lt_succ_iff_lt_or_eq.1 hp with hp | hp
  · left
    refine ⟨h.after, by rw [← valueAt_append_lt hp]; exact h.value, fun q hz hq => ?_⟩
    rw [← valueAt_append_lt (c := c) (by omega)]
    exact h.beforeZero q hz hq
  · exact .inr hp

theorem isLeast_follows_append (h : IsLeast {p | Follows cs z m n p} p) :
    IsLeast {p | Follows (cs ++ [c]) z m n p} p := by
  refine ⟨h.1.append, fun q hq => ?_⟩
  rcases Follows.of_append hq with hq | rfl
  · exact h.2 hq
  · exact (lt_of_valueAt h.1.value).le

namespace Members

/-- The `j`-th member is the constant `j`. -/
theorem value (h : Members cs z ms) {j : ℕ} (hm : ms[j]? = some m) : valueAt cs m = some j := by
  rcases j with _ | j
  · have hz := h.opens
    rw [List.head?_eq_getElem?, hm, Option.some.injEq] at hz
    rw [hz]; exact h.zero
  · have hj : j < ms.length := by have := (List.getElem?_eq_some_iff.1 hm).1; omega
    exact (h.next j ms[j] m (List.getElem?_eq_getElem hj) hm).1.value

theorem lt_length (h : Members cs z ms) : ∀ m ∈ ms, m < cs.length := by
  intro m hm
  obtain ⟨j, hj⟩ := List.mem_iff_getElem?.1 hm
  exact lt_of_valueAt (h.value hj)

/-- An enumeration stays as it is if the next constant does not join it. -/
theorem append (h : Members cs z ms)
    (hno : ∀ m, ¬ Follows (cs ++ [c]) z m ms.length cs.length) : Members (cs ++ [c]) z ms := by
  refine ⟨by rw [valueAt_append_lt (lt_of_valueAt h.zero)]; exact h.zero, h.opens,
    fun j m m' hm hm' => isLeast_follows_append (h.next j m m' hm hm'), fun m hm p hp => ?_⟩
  rcases Follows.of_append hp with hp' | rfl
  · exact h.ends m hm p hp'
  · exact hno m hp

/-- An enumeration stays as it is as soon as there is a later zero. -/
theorem append_of_zero (h : Members cs z ms) {q : ℕ} (hz : z < q) (hq : q ≤ cs.length)
    (h0 : valueAt (cs ++ [c]) q = some 0) : Members (cs ++ [c]) z ms :=
  h.append fun _ hf => hf.beforeZero q hz hq h0

/-- The constant that equals the number of members joins the enumeration of the last
zero. -/
theorem append_member (h : Members cs z ms) (hlast : ∀ q, z < q → valueAt cs q ≠ some 0)
    (hc : c.intValue = some ms.length) : Members (cs ++ [c]) z (ms ++ [cs.length]) := by
  have hne : ms ≠ [] := by intro he; have := h.opens; simp [he] at this
  -- `z` is the last zero, and the new constant is none, so there is no zero in between
  have hnew : ∀ m ∈ ms, Follows (cs ++ [c]) z m ms.length cs.length := by
    intro m hm
    refine ⟨h.lt_length m hm, by rw [valueAt_append_length]; exact hc, fun q hz hq => ?_⟩
    rcases Nat.lt_or_eq_of_le hq with hq | rfl
    · rw [valueAt_append_lt hq]; exact hlast q hz
    · rw [valueAt_append_length, hc]; simpa using hne
  refine ⟨by rw [valueAt_append_lt (lt_of_valueAt h.zero)]; exact h.zero, ?_, ?_, ?_⟩
  · rw [List.head?_append_of_ne_nil _ hne]; exact h.opens
  · intro j m m' hm hm'
    have hj : j + 1 < ms.length + 1 := by simpa using (List.getElem?_eq_some_iff.1 hm').1
    rw [List.getElem?_append_left (by omega)] at hm
    rcases Nat.lt_succ_iff_lt_or_eq.1 hj with hj | hj
    · rw [List.getElem?_append_left hj] at hm'
      exact isLeast_follows_append (h.next j m m' hm hm')
    · -- the last member so far is followed by the new one, and by nothing before it
      rw [hj, List.getElem?_concat_length, Option.some.injEq] at hm'
      subst hm'
      rw [hj]
      refine ⟨hnew m (List.mem_of_getElem? hm), fun q hq => ?_⟩
      rcases Follows.of_append hq with hq | rfl
      · refine absurd hq (h.ends m ?_ q)
        rw [List.getLast?_eq_getElem?, show ms.length - 1 = j by omega]; exact hm
      · exact le_rfl
  · intro m hm p hp
    rw [List.getLast?_concat, Option.some.injEq] at hm
    have hlt := lt_of_valueAt hp.value
    have := hp.after
    rw [List.length_append, List.length_singleton] at hlt
    omega

/-- A zero opens an enumeration. -/
theorem singleton (hc : c.intValue = some 0) : Members (cs ++ [c]) cs.length [cs.length] := by
  refine ⟨by rw [valueAt_append_length]; exact hc, rfl, fun j m m' _ hm' => by simp at hm', ?_⟩
  intro m hm p hp
  rw [List.getLast?_singleton, Option.some.injEq] at hm
  have hlt := lt_of_valueAt hp.value
  have := hp.after
  rw [List.length_append, List.length_singleton] at hlt
  omega

end Members

/-- A position that has joined an enumeration is no longer outside. -/
theorem outside_succ_of_mem {mss mss' : List (List ℕ)}
    (h : ∀ p, p ∈ mss'.flatten ↔ p ∈ mss.flatten ∨ p = n) :
    outside (n + 1) mss' = outside n mss := by
  unfold outside
  rw [List.range_succ, List.filter_append, List.filter_cons_of_neg (by simp [h]), List.filter_nil,
    List.append_nil]
  apply List.filter_congr
  intro p hp
  have hpn : p ≠ n := (List.mem_range.1 hp).ne
  simp only [h, hpn, or_false]

theorem outside_succ_of_not_mem {mss : List (List ℕ)} (h : ∀ p ∈ mss.flatten, p < n) :
    outside (n + 1) mss = outside n mss ++ [n] := by
  unfold outside
  rw [List.range_succ, List.filter_append, List.filter_cons_of_pos, List.filter_nil]
  simp only [decide_eq_true_eq]
  exact fun hn => lt_irrefl n (h n hn)

/-- **What sorting one more declaration does**: it opens an enumeration, joins the open
one, or becomes a field. -/
theorem add_cases (g : Grouping) (c : Constant) :
    (c.intValue = some 0 ∧
      g.add c = ⟨g.fields, g.closed ++ g.open?.toList, some [c.declaration]⟩) ∨
    (∃ ds, g.open? = some ds ∧ c.intValue = some ds.length ∧
      g.add c = ⟨g.fields, g.closed, some (ds ++ [c.declaration])⟩) ∨
    (c.intValue ≠ some 0 ∧ (∀ ds, g.open? = some ds → c.intValue ≠ some ds.length) ∧
      g.add c = ⟨g.fields ++ [c.declaration], g.closed, g.open?⟩) := by
  unfold add
  rcases hv : c.intValue with _ | _ | n
  · exact .inr (.inr ⟨by simp, by simp, rfl⟩)
  · exact .inl ⟨rfl, rfl⟩
  rcases ho : g.open? with _ | ds
  · exact .inr (.inr ⟨by simp, by simp, rfl⟩)
  by_cases hn : n + 1 = ds.length
  · exact .inr (.inl ⟨ds, rfl, by rw [hn], if_pos hn⟩)
  · refine .inr (.inr ⟨by simp, ?_, if_neg hn⟩)
    intro ds' h; cases h; simpa using hn

/-- Enumerations before a zero stay as they are. -/
theorem forall₂_append_of_zero {zs : List ℕ} {mss : List (List ℕ)} {q : ℕ}
    (h : List.Forall₂ (Members cs) zs mss) (hq : q ≤ cs.length)
    (h0 : valueAt (cs ++ [c]) q = some 0) (hz : ∀ z ∈ zs, z < q) :
    List.Forall₂ (Members (cs ++ [c])) zs mss := by
  have hboth := (List.forall₂_and_left _ _).2 ⟨hz, h⟩
  exact hboth.imp fun _ _ hzm => hzm.2.append_of_zero hzm.1 hq h0

theorem exists_members {zs : List ℕ} {mss : List (List ℕ)}
    (h : List.Forall₂ (Members cs) zs mss) (hms : ms ∈ mss) : ∃ z ∈ zs, Members cs z ms := by
  induction h with
  | nil => simp at hms
  | cons hm _ ih =>
    rcases List.mem_cons.1 hms with rfl | hms
    · exact ⟨_, List.mem_cons_self, hm⟩
    · obtain ⟨z, hz, hm⟩ := ih hms
      exact ⟨z, List.mem_cons_of_mem _ hz, hm⟩

theorem map_declarationAt_append {mss : List (List ℕ)} (h : ∀ p ∈ mss.flatten, p < cs.length) :
    mss.map (·.map (declarationAt (cs ++ [c]))) = mss.map (·.map (declarationAt cs)) := by
  apply List.map_congr_left
  intro ms hms
  apply List.map_congr_left
  exact fun p hp => declarationAt_append_lt (h p (List.mem_flatten.2 ⟨ms, hms, hp⟩))

theorem map_outside_append {mss : List (List ℕ)} :
    (outside cs.length mss).map (declarationAt (cs ++ [c])) =
      (outside cs.length mss).map (declarationAt cs) :=
  List.map_congr_left fun _ hp =>
    declarationAt_append_lt (List.mem_range.1 (List.mem_of_mem_filter hp))

/-- **The invariant of the scan**: the grouping holds what is at the positions `mss` of the
closed enumerations, `cur` of the open one, and outside them. -/
structure Tracks (cs : List Constant) (g : Grouping) (mss : List (List ℕ))
    (cur : Option (List ℕ)) : Prop where
  members : List.Forall₂ (Members cs) (zeros cs) (mss ++ cur.toList)
  closed : g.closed.map (·.map some) = mss.map (·.map (declarationAt cs))
  opened : g.open?.map (·.map some) = cur.map (·.map (declarationAt cs))
  fields : g.fields.map some = (outside cs.length (mss ++ cur.toList)).map (declarationAt cs)
  idle : cur = none → mss = []

namespace Tracks

variable {mss : List (List ℕ)} {cur : Option (List ℕ)}

theorem lt_length (h : Tracks cs g mss cur) : ∀ p ∈ (mss ++ cur.toList).flatten, p < cs.length := by
  intro p hp
  obtain ⟨ms, hms, hp⟩ := List.mem_flatten.1 hp
  obtain ⟨z, -, hm⟩ := exists_members h.members hms
  exact hm.lt_length p hp

/-- The open enumeration is that of the last zero. -/
theorem last_zero {ms : List ℕ} (h : Tracks cs g mss (some ms)) :
    ∃ zs z, zeros cs = zs ++ [z] ∧ List.Forall₂ (Members cs) zs mss ∧ Members cs z ms ∧
      (∀ y ∈ zs, y < z) ∧ ∀ q, z < q → valueAt cs q ≠ some 0 := by
  have hall := h.members
  have hsorted : (zeros cs).Pairwise (· < ·) := zeros_sorted
  rcases List.eq_nil_or_concat (zeros cs) with hnil | ⟨zs, z, hz⟩
  · rw [hnil] at hall; simp at hall
  rw [List.concat_eq_append] at hz
  -- zeros and enumerations are matched from the front; reversed, the last ones come first
  rw [hz, Option.toList_some, ← List.forall₂_reverse_iff] at hall
  simp only [List.reverse_append, List.reverse_singleton, List.singleton_append,
    List.forall₂_cons, List.forall₂_reverse_iff] at hall
  rw [hz, List.pairwise_append] at hsorted
  have hlast : ∀ y ∈ zs, y < z := fun y hy => hsorted.2.2 y hy z (by simp)
  refine ⟨zs, z, hz, hall.2, hall.1, hlast, fun q hq h0 => ?_⟩
  rw [← mem_zeros, hz, List.mem_append, List.mem_singleton] at h0
  rcases h0 with h0 | h0
  · have := hlast q h0; omega
  · omega

/-- A zero closes the open enumeration and opens another one. -/
theorem add_zero (h : Tracks cs g mss cur) (hc : c.intValue = some 0) :
    Tracks (cs ++ [c]) ⟨g.fields, g.closed ++ g.open?.toList, some [c.declaration]⟩
      (mss ++ cur.toList) (some [cs.length]) := by
  have hlt := h.lt_length
  refine ⟨?_, ?_, ?_, ?_, by simp⟩
  · rw [zeros_append, if_pos hc]
    refine List.rel_append (forall₂_append_of_zero h.members le_rfl ?_ ?_)
      (.cons (.singleton hc) .nil)
    · rw [valueAt_append_length]; exact hc
    · exact fun z hz => lt_of_valueAt (mem_zeros.1 hz)
  · have hopen : g.open?.toList.map (·.map some) = cur.toList.map (·.map (declarationAt cs)) := by
      have := congrArg Option.toList h.opened
      simpa only [Option.toList_map] using this
    rw [map_declarationAt_append hlt, List.map_append, List.map_append, h.closed, hopen]
  · simp [declarationAt_append_length]
  · have hout : outside (cs.length + 1) (mss ++ cur.toList ++ (some [cs.length]).toList) =
        outside cs.length (mss ++ cur.toList) := outside_succ_of_mem fun p => by simp [or_assoc]
    rw [List.length_append, List.length_singleton, hout, map_outside_append]
    exact h.fields

/-- The constant that equals the number of members joins them. -/
theorem add_member {ms : List ℕ} {ds : List Declaration} (h : Tracks cs g mss (some ms))
    (ho : g.open? = some ds) (hc : c.intValue = some ds.length) :
    Tracks (cs ++ [c]) ⟨g.fields, g.closed, some (ds ++ [c.declaration])⟩ mss
      (some (ms ++ [cs.length])) := by
  have hlt := h.lt_length
  obtain ⟨zs, z, hz, hzs, hm, hlast, hno⟩ := h.last_zero
  -- what the scan compares with is the number of declarations, here that of positions
  have hds : ds.map some = ms.map (declarationAt cs) := by simpa [ho] using h.opened
  have hlen : ds.length = ms.length := by simpa using congrArg List.length hds
  have hpos : ms.length ≠ 0 := by
    intro h0; have := hm.opens; simp [List.length_eq_zero_iff.1 h0] at this
  have hne : c.intValue ≠ some 0 := by rw [hc, hlen]; simpa using hpos
  rw [hlen] at hc
  have hzlt := lt_of_valueAt hm.zero
  refine ⟨?_, ?_, ?_, ?_, by simp⟩
  · rw [zeros_append, if_neg hne, List.append_nil, hz]
    refine List.rel_append (forall₂_append_of_zero hzs hzlt.le ?_ hlast)
      (.cons (hm.append_member hno hc) .nil)
    rw [valueAt_append_lt hzlt]; exact hm.zero
  · rw [map_declarationAt_append fun p hp => hlt p (List.flatten_append ▸ List.mem_append_left _ hp)]
    exact h.closed
  · have hms : ms.map (declarationAt (cs ++ [c])) = ms.map (declarationAt cs) :=
      List.map_congr_left fun p hp => declarationAt_append_lt (hm.lt_length p hp)
    simp [hms, hds, declarationAt_append_length]
  · have hout : outside (cs.length + 1) (mss ++ (some (ms ++ [cs.length])).toList) =
        outside cs.length (mss ++ [ms]) := outside_succ_of_mem fun p => by simp [or_assoc]
    rw [List.length_append, List.length_singleton, hout, map_outside_append]
    exact h.fields

/-- Every other declaration becomes a field. -/
theorem add_field (h : Tracks cs g mss cur) (h0 : c.intValue ≠ some 0)
    (hc : ∀ ds, g.open? = some ds → c.intValue ≠ some ds.length) :
    Tracks (cs ++ [c]) ⟨g.fields ++ [c.declaration], g.closed, g.open?⟩ mss cur := by
  have hlt := h.lt_length
  have hcur : cur.toList.map (·.map (declarationAt (cs ++ [c]))) =
      cur.toList.map (·.map (declarationAt cs)) :=
    map_declarationAt_append fun p hp => hlt p (List.flatten_append ▸ List.mem_append_right _ hp)
  refine ⟨?_, ?_, ?_, ?_, h.idle⟩
  · rw [zeros_append, if_neg h0, List.append_nil]
    cases cur with
    | none =>
      -- nothing was opened yet, so there is no zero
      have hnil := h.members
      rw [h.idle rfl] at hnil ⊢
      simp only [Option.toList_none, List.append_nil, List.forall₂_nil_right_iff] at hnil ⊢
      exact hnil
    | some ms =>
      obtain ⟨zs, z, hz, hzs, hm, hlast, -⟩ := h.last_zero
      have hzlt := lt_of_valueAt hm.zero
      obtain ⟨ds, ho, hds⟩ : ∃ ds, g.open? = some ds ∧ ds.map some = ms.map (declarationAt cs) := by
        simpa using h.opened
      have hlen : ds.length = ms.length := by simpa using congrArg List.length hds
      rw [hz]
      refine List.rel_append (forall₂_append_of_zero hzs hzlt.le ?_ hlast) (.cons (hm.append ?_) .nil)
      · rw [valueAt_append_lt hzlt]; exact hm.zero
      · intro m hf
        have hv := hf.value
        rw [valueAt_append_length, ← hlen] at hv
        exact hc ds ho hv
  · rw [map_declarationAt_append fun p hp => hlt p (List.flatten_append ▸ List.mem_append_left _ hp)]
    exact h.closed
  · rw [h.opened]
    cases cur with
    | none => rfl
    | some ms => simpa using hcur.symm
  · rw [List.length_append, List.length_singleton, outside_succ_of_not_mem hlt, List.map_append,
      List.map_append, map_outside_append, h.fields]
    simp [declarationAt_append_length]

/-- **One step of the scan keeps the invariant.** -/
theorem add (h : Tracks cs g mss cur) (c : Constant) :
    ∃ mss' cur', Tracks (cs ++ [c]) (g.add c) mss' cur' := by
  rcases add_cases g c with ⟨hc, hg⟩ | ⟨ds, ho, hc, hg⟩ | ⟨h0, hc, hg⟩
  · rw [hg]; exact ⟨_, _, h.add_zero hc⟩
  · rw [hg]
    cases cur with
    | none => have := h.opened; simp [ho] at this
    | some ms => exact ⟨_, _, h.add_member ho hc⟩
  · rw [hg]; exact ⟨_, _, h.add_field h0 hc⟩

end Tracks

/-- **The whole scan keeps the invariant.** -/
theorem exists_tracks (cs : List Constant) : ∃ mss cur, Tracks cs (ofList cs) mss cur := by
  -- the scan goes from left to right, so the induction takes constants away at the end
  induction cs using List.reverseRecOn with
  | nil => exact ⟨[], none, .nil, rfl, rfl, rfl, fun _ => rfl⟩
  | append_singleton cs c ih =>
    obtain ⟨mss, cur, h⟩ := ih
    have hstep : ofList (cs ++ [c]) = (ofList cs).add c := by simp [ofList, List.foldl_append]
    rw [hstep]
    exact h.add c

/-- **The scan arranges its constants.** -/
theorem arranged_ofList (cs : List Constant) :
    Arranged cs (ofList cs).fields (ofList cs).enums := by
  obtain ⟨mss, cur, h⟩ := exists_tracks cs
  refine ⟨mss ++ cur.toList, h.members, ?_, h.fields⟩
  have hopen := congrArg Option.toList h.opened
  simp only [Option.toList_map] at hopen
  rw [enums, List.map_append, List.map_append, h.closed, hopen]

/-- No declaration is lost, and none is taken twice. -/
theorem perm_ofList (cs : List Constant) :
    ((ofList cs).fields ++ (ofList cs).enums.flatten).Perm (cs.map Constant.declaration) := by
  induction cs using List.reverseRecOn with
  | nil => exact .nil
  | append_singleton cs c ih =>
    have hstep : ofList (cs ++ [c]) = (ofList cs).add c := by simp [ofList, List.foldl_append]
    rw [hstep, List.map_append, List.map_singleton]
    refine List.Perm.trans ?_ (ih.append_right _)
    rcases add_cases (ofList cs) c with ⟨-, hg⟩ | ⟨ds, ho, -, hg⟩ | ⟨-, -, hg⟩
    · simp [hg, enums]
    · simp [hg, enums, ho]
    · simp only [hg, enums, List.append_assoc]
      exact List.perm_append_comm.append_left _

/-- Every enumeration has members, and the `j`-th one has the ordinal `j`, as far as
ordinals are the integers of the constants. -/
theorem Arranged.ordinal {fields : List Declaration} {enums : List (List Declaration)}
    (h : Arranged cs fields enums)
    (hord : ∀ c ∈ cs, ∀ n, c.intValue = some n → c.declaration.ordinal = n) :
    ∀ e ∈ enums, e ≠ [] ∧ ∀ (j : ℕ) (hj : j < e.length), e[j].ordinal = j := by
  obtain ⟨mss, hmem, henums, -⟩ := h.positions
  intro e he
  have hem : e.map some ∈ mss.map (·.map (declarationAt cs)) := by
    rw [← henums]; exact List.mem_map_of_mem he
  obtain ⟨ms, hms, heq⟩ := List.mem_map.1 hem
  obtain ⟨z, -, hm⟩ := exists_members hmem hms
  refine ⟨fun hnil => ?_, fun j hj => ?_⟩
  · have hopens := hm.opens
    rw [hnil, List.map_nil, List.map_eq_nil_iff] at heq
    simp [heq] at hopens
  · have hlen : ms.length = e.length := by simpa using congrArg List.length heq
    have hj' : j < ms.length := by omega
    have hval := hm.value (List.getElem?_eq_getElem hj')
    have hdecl : declarationAt cs ms[j] = some e[j] := by
      have := congrArg (fun l => l[j]?) heq
      simpa [hj, hj'] using this
    unfold valueAt at hval
    unfold declarationAt at hdecl
    cases hc : cs[ms[j]]? with
    | none => simp [hc] at hval
    | some c =>
      rw [hc, Option.bind_some] at hval
      rw [hc, Option.map_some, Option.some.injEq] at hdecl
      rw [← hdecl]
      exact hord c (List.mem_of_getElem? hc) j hval

end RosBindings.Grouping

namespace RosBindings.Definition

open Grouping

/-- Every declaration of a definition is what one of its lines says. -/
theorem declared_reads {rawLines : List Text} {name runtime : Text} {d : Definition}
    (h : parse rawLines name runtime = .ok d) {f : Declaration}
    (hf : f ∈ d.fields ++ d.enums.flatten) :
    ∃ line c, Reads runtime line c ∧ c.declaration = f := by
  obtain ⟨cs, hreads, hfields, henums⟩ := parse_reads h
  rw [hfields, henums] at hf
  obtain ⟨c, hc, hdeclares⟩ := List.mem_map.1 ((perm_ofList cs).subset hf)
  obtain ⟨i, hi, rfl⟩ := List.mem_iff_getElem.1 hc
  have hi' : i < ((rawLines.map Text.trim).filter Line.isField).length := by
    rw [hreads.length_eq]; exact hi
  exact ⟨_, _, List.Forall₂.get hreads hi' hi, hdeclares⟩

/-- **Constants are sorted greedily, whatever stands between them.** The field lines of a
definition that is read give one declaration each, with the tokens and the type that the
line says. One enumeration belongs to each constant 0, in order: its members are the first
1 after it, the first 2 after that and so on, up to the next 0. All other declarations are
fields, in the order of the lines. -/
theorem parse_arranges {rawLines : List Text} {name runtime : Text} {d : Definition}
    (h : parse rawLines name runtime = .ok d) :
    ∃ cs : List Constant,
      List.Forall₂ (Reads runtime) ((rawLines.map Text.trim).filter Line.isField) cs ∧
      Arranged cs d.fields d.enums ∧
      (d.fields ++ d.enums.flatten).Perm (cs.map Constant.declaration) ∧
      ∀ e ∈ d.enums, e ≠ [] ∧ ∀ (j : ℕ) (hj : j < e.length), e[j].ordinal = j := by
  obtain ⟨cs, hreads, hf, he⟩ := parse_reads h
  have harr : Arranged cs d.fields d.enums := by rw [hf, he]; exact arranged_ofList cs
  refine ⟨cs, hreads, harr, by rw [hf, he]; exact perm_ofList cs, harr.ordinal ?_⟩
  intro c hc n hn
  obtain ⟨i, hi, rfl⟩ := List.mem_iff_getElem.1 hc
  have hi' : i < ((rawLines.map Text.trim).filter Line.isField).length := by
    rw [hreads.length_eq]; exact hi
  exact Reads.ordinal (List.Forall₂.get hreads hi' hi) hn

/-- A constant that joins late, one that is left out, and a second enumeration. -/
theorem parse_arranges_interleaved :
    let lines : List Text := ["int8 A=0", "bool x", "int8 B=1", "int8 C=5", "int8 D=0"]
    let byte : FieldType := ⟨.primitive, "byte", none, .single⟩
    let d : Definition :=
      { name := "p/E"
        fields := [⟨"x", "bool", ⟨.primitive, "boolean", none, .single⟩, [], []⟩,
          ⟨"C", "int8", byte, "5", []⟩]
        enums := [[⟨"A", "int8", byte, "0", []⟩, ⟨"B", "int8", byte, "1", []⟩],
          [⟨"D", "int8", byte, "0", []⟩]] }
    parse lines "p/E" defaultRuntime = .ok d ∧ ∃ cs : List Constant,
      List.Forall₂ (Reads defaultRuntime) ((lines.map Text.trim).filter Line.isField) cs ∧
      Arranged cs d.fields d.enums ∧
      (d.fields ++ d.enums.flatten).Perm (cs.map Constant.declaration) ∧
      ∀ e ∈ d.enums, e ≠ [] ∧ ∀ (j : ℕ) (hj : j < e.length), e[j].ordinal = j := by
  intro lines byte d
  have h : parse lines "p/E" defaultRuntime = .ok d := by decide
  exact ⟨h, parse_arranges h⟩

end RosBindings.Definition

import Mathlib.Data.List.DropRight
import Mathlib.Data.List.Sort
import RosBindings.Text.Blank
import RosBindings.Text.Lines
import RosBindings.Text.Order

/-!
# Laws of texts

* `pieces` is the splitting of the library, so `unrows` and `rows` are inverse to each
  other on rows without line feeds.
* `words` reads a text word by word.
* `trim` takes nothing from a text whose ends are not blank, and twice is once. It takes
  characters of its class only (`exists_around_trimBy`).
* `sortedSet` is increasing and has the texts it is made of.
-/

namespace RosBindings.Text

variable {sep p : Char → Bool} {c : Char} {t u : Text}

theorem beq_eq_false_of_not_mem (h : c ∉ t) : ∀ x ∈ t, (x == c) = false := by
  intro x hx
  rw [beq_eq_false_iff_ne]
  rintro rfl
  exact h hx

/-- A character that is in none of several texts, as evaluation shows. -/
theorem not_mem_of_all {ts : List Text} (hall : ts.all (!·.contains c) = true) (h : t ∈ ts) :
    c ∉ t := by
  simpa using List.all_eq_true.1 hall t h

/-- What a table gives for a key is an entry of the table. -/
theorem mem_of_lookup {α β : Type} [BEq α] [LawfulBEq α] {key : α} {value : β}
    {entries : List (α × β)} (h : entries.lookup key = some value) : (key, value) ∈ entries := by
  obtain ⟨before, after, heq, -⟩ := List.lookup_eq_some_iff.1 h
  rw [heq]
  exact List.mem_append_right _ List.mem_cons_self

/-! ## Pieces, rows and words -/

theorem pieces_eq_splitOnP (sep : Char → Bool) (t : Text) : pieces sep t = t.splitOnP sep := by
  induction t with
  | nil => simp [pieces]
  | cons c t ih =>
    rw [pieces, List.splitOnP_cons_eq_if_modifyHead, ih]
    by_cases hc : sep c = true
    · rw [if_pos hc, if_pos hc]
    · rw [if_neg hc, if_neg hc]
      obtain ⟨q, qs, hq⟩ := List.exists_cons_of_ne_nil (List.splitOnP_ne_nil sep t)
      rw [hq]; rfl

theorem pieces_ne_nil (sep : Char → Bool) (t : Text) : pieces sep t ≠ [] := by
  rw [pieces_eq_splitOnP]
  exact List.splitOnP_ne_nil sep t

/-- There is one piece more than there are separators. -/
theorem length_pieces (sep : Char → Bool) (t : Text) :
    (pieces sep t).length = t.countP sep + 1 := by
  induction t with
  | nil => rfl
  | cons c t ih =>
    by_cases hc : sep c = true
    · rw [pieces, if_pos hc, List.countP_cons_of_pos hc, List.length_cons, ih]
    · rw [pieces, if_neg hc, List.countP_cons_of_neg hc, ← ih]
      obtain ⟨q, qs, hq⟩ := List.exists_cons_of_ne_nil (pieces_ne_nil sep t)
      rw [hq]; rfl

/-- Texts with a separator between them are pieced apart again. -/
theorem pieces_join {ts : List Text} (h : ∀ t ∈ ts, c ∉ t) (hne : ts ≠ []) :
    pieces (· == c) (join [c] ts) = ts := by
  rw [pieces_eq_splitOnP, ← List.splitOn_eq_splitOnP, join, List.splitOn_intercalate _ h hne]

theorem rows_eq_splitOn (t : Text) : rows t = t.splitOn '\n' := by
  rw [rows, pieces_eq_splitOnP, List.splitOn_eq_splitOnP]

@[simp] theorem unrows_rows (t : Text) : unrows (rows t) = t := by
  rw [rows_eq_splitOn, unrows, join, List.intercalate_splitOn]

theorem rows_unrows {rs : List Text} (h : ∀ r ∈ rs, '\n' ∉ r) (hne : rs ≠ []) :
    rows (unrows rs) = rs := pieces_join h hne

@[simp] theorem rows_ne_nil (t : Text) : rows t ≠ [] := by
  rw [rows_eq_splitOn]; exact List.splitOn_ne_nil _ _

theorem rows_append_newline (t u : Text) : rows (t ++ '\n' :: u) = rows t ++ rows u := by
  simp only [rows_eq_splitOn, List.splitOn_append_cons_self]

/-- Text without line feeds in front of the first row. -/
theorem rows_append_left {p first : Text} {rest : List Text} (hp : '\n' ∉ p)
    (ht : rows t = first :: rest) : rows (p ++ t) = (p ++ first) :: rest := by
  induction p with
  | nil => exact ht
  | cons c p ih =>
    rw [List.mem_cons, not_or] at hp
    have hrest := ih hp.2
    rw [rows] at hrest ⊢
    rw [List.cons_append, pieces, if_neg (by simpa using Ne.symm hp.1), hrest, List.cons_append]

theorem rows_of_not_mem (h : '\n' ∉ t) : rows t = [t] := by
  rw [rows_eq_splitOn, List.splitOn_eq_singleton h]

theorem not_mem_of_mem_rows {r : Text} : ∀ {t : Text}, r ∈ rows t → '\n' ∉ r := by
  intro t
  induction t generalizing r with
  | nil => intro h; simp [rows, pieces] at h; simp [h]
  | cons c t ih =>
    intro h
    rw [rows_eq_splitOn, List.splitOn_cons_eq_if_modifyHead, ← rows_eq_splitOn] at h
    -- a line feed starts a new row, and any other character goes to the front of the first one
    by_cases hc : c = '\n'
    · simp only [hc, beq_self_eq_true, if_true, List.mem_cons] at h
      rcases h with rfl | h
      · simp
      · exact ih h
    · rw [if_neg (by simpa using hc)] at h
      cases hr : rows t with
      | nil => exact absurd hr (rows_ne_nil t)
      | cons r₀ rs =>
        rw [hr] at h ih
        simp only [List.modifyHead_cons, List.mem_cons] at h
        rcases h with rfl | h
        · simp only [List.mem_cons, not_or]
          exact ⟨Ne.symm hc, ih List.mem_cons_self⟩
        · exact ih (List.mem_cons_of_mem _ h)

@[simp] theorem unrows_nil : unrows [] = [] := rfl

theorem join_singleton (sep t : Text) : join sep [t] = t := List.intercalate_singleton

@[simp] theorem unrows_singleton (r : Text) : unrows [r] = r := join_singleton _ r

theorem join_cons_cons (c : Char) (t u : Text) (ts : List Text) :
    join [c] (t :: u :: ts) = t ++ c :: join [c] (u :: ts) := by
  rw [join, List.intercalate_cons_cons]
  simp [join]

theorem join_nil_cons (sep t : Text) (ts : List Text) :
    join sep ([] :: t :: ts) = sep ++ join sep (t :: ts) := by
  simp only [join, List.intercalate_cons_cons, List.nil_append]

theorem join_cons_char (sep : Text) (c : Char) (t : Text) (ts : List Text) :
    join sep ((c :: t) :: ts) = c :: join sep (t :: ts) := by
  cases ts with
  | nil => simp only [join_singleton]
  | cons u us => simp only [join, List.intercalate_cons_cons, List.cons_append]

/-- The character that parts texts stands between two lists of them. -/
theorem join_append (c : Char) {ts us : List Text} (ht : ts ≠ []) (hu : us ≠ []) :
    join [c] (ts ++ us) = join [c] ts ++ c :: join [c] us := by
  obtain ⟨u, us, rfl⟩ := List.exists_cons_of_ne_nil hu
  induction ts with
  | nil => exact absurd rfl ht
  | cons t ts ih =>
    rcases ts with _ | ⟨t', ts⟩
    · rw [List.singleton_append, join_cons_cons, join_singleton]
    · rw [List.cons_append, List.cons_append, join_cons_cons, ← List.cons_append,
        ih (by simp), join_cons_cons, List.append_assoc, List.cons_append]

theorem unrows_cons_cons (r s : Text) (rs : List Text) :
    unrows (r :: s :: rs) = r ++ '\n' :: unrows (s :: rs) := join_cons_cons '\n' r s rs

theorem unrows_append {rs ss : List Text} (hr : rs ≠ []) (hs : ss ≠ []) :
    unrows (rs ++ ss) = unrows rs ++ '\n' :: unrows ss := join_append '\n' hr hs

/-- The rows of several texts put together are their rows one after the other. -/
theorem rows_unrows_flatMap {ts : List Text} (hne : ts ≠ []) :
    rows (unrows ts) = ts.flatMap rows := by
  induction ts with
  | nil => exact absurd rfl hne
  | cons t ts ih =>
    rcases ts with _ | ⟨u, ts⟩
    · simp
    · rw [unrows_cons_cons, rows_append_newline, ih (by simp), List.flatMap_cons (x := t)]

theorem unrows_flatMap {α : Type} {g : α → List Text} (hg : ∀ x, g x ≠ []) (xs : List α) :
    unrows (xs.flatMap g) = unrows (xs.map fun x => unrows (g x)) := by
  induction xs with
  | nil => rfl
  | cons x xs ih =>
    rcases xs with _ | ⟨y, xs⟩
    · simp
    · have hrest : (y :: xs).flatMap g ≠ [] := by simp [hg y]
      rw [List.flatMap_cons, unrows_append (hg x) hrest, ih]
      simp only [List.map_cons, unrows_cons_cons]

/-- Every text but the last is followed by the character that parts them. -/
theorem join_concat (c : Char) (ts : List Text) (t : Text) :
    join [c] (ts ++ [t]) = ts.flatMap (· ++ [c]) ++ t := by
  induction ts with
  | nil => simp [join]
  | cons u ts ih =>
    have hne : ts ++ [t] ≠ [] := by simp
    obtain ⟨v, vs, hv⟩ := List.exists_cons_of_ne_nil hne
    rw [hv] at ih
    rw [List.cons_append, hv, join_cons_cons, ih]
    simp

theorem unrows_concat (rs : List Text) (t : Text) :
    unrows (rs ++ [t]) = rs.flatMap (· ++ ['\n']) ++ t := join_concat '\n' rs t

theorem join_pieces (c : Char) (t : Text) : join [c] (pieces (· == c) t) = t := by
  rw [pieces_eq_splitOnP, ← List.splitOn_eq_splitOnP, join, List.intercalate_splitOn]

/-- The last of several pieces stands right behind a separator. -/
theorem exists_before_last_piece {init : List Text} {last : Text}
    (h : pieces (· == c) t = init ++ [last]) (hne : init ≠ []) :
    ∃ before, t = before ++ c :: last := by
  obtain ⟨ts, u, rfl⟩ := List.eq_nil_or_concat init |>.resolve_left hne
  refine ⟨ts.flatMap (· ++ [c]) ++ u, ?_⟩
  rw [← join_pieces c t, h, join_concat]
  simp

theorem pieces_of_word {w : Text} (hw : ∀ x ∈ w, sep x = false) : pieces sep w = [w] := by
  rw [pieces_eq_splitOnP, List.splitOnP_eq_singleton hw]

/-- The first piece goes as far as the first separator. -/
theorem pieces_append_sep {w : Text} (hw : ∀ x ∈ w, sep x = false) (hc : sep c = true) :
    pieces sep (w ++ c :: t) = w :: pieces sep t := by
  rw [pieces_eq_splitOnP, List.splitOnP_append_cons_of_forall_mem hw c hc, ← pieces_eq_splitOnP]

/-- A separator parts a text. -/
theorem pieces_append_cons (hc : sep c = true) (t u : Text) :
    pieces sep (t ++ c :: u) = pieces sep t ++ pieces sep u := by
  rw [pieces_eq_splitOnP, List.splitOnP_append_cons t u hc, ← pieces_eq_splitOnP,
    ← pieces_eq_splitOnP]

theorem words_cons_sep (h : sep c = true) : words sep (c :: t) = words sep t := by
  rw [words, pieces, if_pos h]; rfl

/-- A word goes as far as the next separator. -/
theorem words_append_sep {w : Text} (hw : ∀ x ∈ w, sep x = false) (hne : w ≠ [])
    (hc : sep c = true) : words sep (w ++ c :: t) = w :: words sep t := by
  rw [words, pieces_eq_splitOnP, List.splitOnP_append_cons_of_forall_mem hw c hc,
    List.filter_cons_of_pos (by simpa using hne), ← pieces_eq_splitOnP, words]

theorem words_of_word {w : Text} (hw : ∀ x ∈ w, sep x = false) (hne : w ≠ []) :
    words sep w = [w] := by
  rw [words, pieces_eq_splitOnP, List.splitOnP_eq_singleton hw,
    List.filter_cons_of_pos (by simpa using hne), List.filter_nil]

theorem words_append_cons (hc : sep c = true) (t u : Text) :
    words sep (t ++ c :: u) = words sep t ++ words sep u := by
  rw [words, words, words, pieces_append_cons hc, List.filter_append]

/-- Separators at the end part nothing. -/
theorem words_append_sep_end (hu : u.all sep = true) : words sep (t ++ u) = words sep t := by
  induction u generalizing t with
  | nil => rw [List.append_nil]
  | cons c u ih =>
    rw [List.all_cons, Bool.and_eq_true] at hu
    have hrest : words sep u = [] := ih (t := []) hu.2
    rw [words_append_cons hu.1, hrest, List.append_nil]

theorem words_sep_append (hu : u.all sep = true) : words sep (u ++ t) = words sep t := by
  induction u with
  | nil => rfl
  | cons c u ih =>
    rw [List.all_cons, Bool.and_eq_true] at hu
    rw [List.cons_append, words_cons_sep hu.1, ih hu.2]

/-- What stands behind the last separator is part of the last piece. -/
theorem pieces_append_word {w : Text} (hw : ∀ x ∈ w, sep x = false) (t : Text) :
    ∃ init v, pieces sep (t ++ w) = init ++ [v ++ w] := by
  induction t with
  | nil =>
    rw [List.nil_append, pieces_eq_splitOnP, List.splitOnP_eq_singleton hw]
    exact ⟨[], [], rfl⟩
  | cons c t ih =>
    obtain ⟨init, v, hv⟩ := ih
    rw [List.cons_append, pieces, hv]
    by_cases hc : sep c = true
    · rw [if_pos hc]; exact ⟨[] :: init, v, rfl⟩
    · rw [if_neg hc]
      rcases init with _ | ⟨first, init⟩
      · exact ⟨[], c :: v, rfl⟩
      · exact ⟨(c :: first) :: init, v, rfl⟩

/-- A piece has characters of the text only, and no separator. -/
theorem mem_of_mem_pieces {w : Text} {x : Char} (hw : w ∈ pieces sep t) (hx : x ∈ w) :
    x ∈ t ∧ sep x = false := by
  induction t generalizing w with
  | nil => simp [pieces] at hw; simp [hw] at hx
  | cons c t ih =>
    rw [pieces] at hw
    by_cases hc : sep c = true
    · rw [if_pos hc, List.mem_cons] at hw
      rcases hw with rfl | hw
      · simp at hx
      · exact (ih hw hx).imp_left (List.mem_cons_of_mem c)
    · rw [if_neg hc] at hw
      split at hw
      · obtain rfl : w = [c] := by simpa using hw
        obtain rfl : x = c := by simpa using hx
        exact ⟨List.mem_cons_self, by simpa using hc⟩
      · next p ps hp =>
        rcases List.mem_cons.1 hw with rfl | hw
        · rcases List.mem_cons.1 hx with rfl | hx
          · exact ⟨List.mem_cons_self, by simpa using hc⟩
          · exact (ih (hp ▸ List.mem_cons_self) hx).imp_left (List.mem_cons_of_mem c)
        · exact (ih (hp ▸ List.mem_cons_of_mem p hw) hx).imp_left (List.mem_cons_of_mem c)

theorem mem_of_mem_words {w : Text} {x : Char} (hw : w ∈ words sep t) (hx : x ∈ w) :
    x ∈ t ∧ sep x = false := mem_of_mem_pieces (List.mem_of_mem_filter hw) hx

theorem exists_piece_of_mem {x : Char} (hx : x ∈ t) (hs : sep x = false) :
    ∃ w ∈ pieces sep t, x ∈ w := by
  induction t with
  | nil => cases hx
  | cons c t ih =>
    rw [pieces]
    rcases List.mem_cons.1 hx with rfl | hx
    · -- it starts the first piece
      rw [if_neg (by simp [hs])]
      split
      · exact ⟨[x], List.mem_cons_self, List.mem_cons_self⟩
      · next w ws _ => exact ⟨x :: w, List.mem_cons_self, List.mem_cons_self⟩
    · obtain ⟨w, hw, hxw⟩ := ih hx
      split
      · exact ⟨w, List.mem_cons_of_mem [] hw, hxw⟩
      · split
        · next hnil => rw [hnil] at hw; cases hw
        · next v vs hv =>
          rw [hv] at hw
          rcases List.mem_cons.1 hw with rfl | hw
          · exact ⟨c :: w, List.mem_cons_self, List.mem_cons_of_mem c hxw⟩
          · exact ⟨w, List.mem_cons_of_mem _ hw, hxw⟩

/-- A character that is no separator is in a word. -/
theorem exists_word_of_mem {x : Char} (hx : x ∈ t) (hs : sep x = false) :
    ∃ w ∈ words sep t, x ∈ w := by
  obtain ⟨w, hw, hxw⟩ := exists_piece_of_mem hx hs
  refine ⟨w, List.mem_filter.2 ⟨hw, ?_⟩, hxw⟩
  have hne : w ≠ [] := List.ne_nil_of_mem hxw
  simpa using hne

/-- A text up to the first character of a class, and from it on. -/
theorem exists_until (p : Char → Bool) (t : Text) :
    ∃ before after : Text, t = before ++ after ∧ (∀ x ∈ before, p x = false) ∧
      after.head?.all p = true := by
  induction t with
  | nil => exact ⟨[], [], rfl, by simp, rfl⟩
  | cons c t ih =>
    cases hc : p c with
    | true => exact ⟨[], c :: t, rfl, by simp, hc⟩
    | false =>
      obtain ⟨before, after, rfl, hbefore, hafter⟩ := ih
      exact ⟨c :: before, after, rfl, List.forall_mem_cons.2 ⟨hc, hbefore⟩, hafter⟩

/-- The first word stands behind separators, and goes as far as the next one. -/
theorem words_eq_cons {w : Text} {ws : List Text} (h : words sep t = w :: ws) :
    ∃ gap after : Text, t = gap ++ w ++ after ∧ gap.all sep = true ∧
      after.head?.all sep = true ∧ words sep after = ws := by
  obtain ⟨gap, u, rfl, hgap, hu⟩ := exists_until (!sep ·) t
  have hsep : gap.all sep = true := List.all_eq_true.2 fun x hx => by simpa using hgap x hx
  rw [words_sep_append hsep] at h
  obtain ⟨w', after, rfl, hw', hafter⟩ := exists_until sep u
  -- the word is not empty, since what follows the gap is no separator
  have hne : w' ≠ [] := by
    rintro rfl
    rcases after with _ | ⟨x, after⟩
    · cases h
    · simp_all
  rcases after with _ | ⟨x, after⟩
  · rw [List.append_nil, words_of_word hw' hne] at h
    obtain ⟨rfl, rfl⟩ := List.cons.inj h
    exact ⟨gap, [], by simp, hsep, rfl, rfl⟩
  · rw [words_append_sep hw' hne hafter] at h
    obtain ⟨rfl, rfl⟩ := List.cons.inj h
    exact ⟨gap, x :: after, by simp, hsep, hafter, words_cons_sep hafter⟩

theorem words_eq_nil_iff : words sep t = [] ↔ t.all sep = true := by
  constructor
  · intro h
    rw [List.all_eq_true]
    intro x hx
    by_contra hs
    obtain ⟨w, hw, -⟩ := exists_word_of_mem hx (by simpa using hs)
    rw [h] at hw
    cases hw
  · intro h
    exact words_append_sep_end (t := []) h

theorem mem_join {x : Char} {sep : Text} {ts : List Text} (h : x ∈ join sep ts) :
    x ∈ sep ∨ ∃ t ∈ ts, x ∈ t := by
  induction ts with
  | nil => simp [join] at h
  | cons t ts ih =>
    rcases ts with _ | ⟨u, ts⟩
    · exact .inr ⟨t, List.mem_cons_self, by simpa [join] using h⟩
    · rw [join, List.intercalate_cons_cons, List.mem_append, List.mem_append] at h
      rcases h with (h | h) | h
      · exact .inr ⟨t, List.mem_cons_self, h⟩
      · exact .inl h
      · exact (ih h).imp_right fun ⟨q, hq, hx⟩ => ⟨q, List.mem_cons_of_mem t hq, hx⟩

theorem mem_unrows {x : Char} {rs : List Text} (h : x ∈ unrows rs) :
    x = '\n' ∨ ∃ r ∈ rs, x ∈ r :=
  (mem_join h).imp_left List.mem_singleton.1

theorem length_unrows_le {g : Text → Text} {rs : List Text}
    (h : ∀ r ∈ rs, r.length ≤ (g r).length) :
    (unrows rs).length ≤ (unrows (rs.map g)).length := by
  induction rs with
  | nil => simp
  | cons r rs ih =>
    rw [List.forall_mem_cons] at h
    have hr := h.1
    have hrest := ih h.2
    rcases rs with _ | ⟨s, rs⟩
    · simpa using hr
    · rw [List.map_cons] at hrest ⊢
      rw [List.map_cons, unrows_cons_cons, unrows_cons_cons]
      simp only [List.length_append, List.length_cons]
      omega

/-- Rows that get no shorter, and one of them longer, make a longer text. -/
theorem length_unrows_lt {g : Text → Text} {rs : List Text}
    (hle : ∀ r ∈ rs, r.length ≤ (g r).length) (hlt : ∃ r ∈ rs, r.length < (g r).length) :
    (unrows rs).length < (unrows (rs.map g)).length := by
  induction rs with
  | nil => simp at hlt
  | cons r rs ih =>
    rw [List.forall_mem_cons] at hle
    have hr := hle.1
    rcases rs with _ | ⟨s, rs⟩
    · simpa using hlt
    · simp only [List.map_cons, unrows_cons_cons, List.length_append, List.length_cons]
      rcases hlt with ⟨q, hq, hlt⟩
      rcases List.mem_cons.1 hq with rfl | hq
      · have hrest := length_unrows_le hle.2
        rw [List.map_cons] at hrest
        omega
      · have hrest := ih hle.2 ⟨q, hq, hlt⟩
        rw [List.map_cons] at hrest
        omega

/-- Rows that follow each other in a text stand in it as they are. -/
theorem unrows_isInfix {rs ts : List Text} (h : rs <:+: ts) (hne : rs ≠ []) :
    unrows rs <:+: unrows ts := by
  obtain ⟨before, after, rfl⟩ := h
  have hleft : unrows rs <:+: unrows (before ++ rs) := by
    by_cases hb : before = []
    · simp [hb]
    · rw [unrows_append hb hne]
      exact ((List.suffix_cons '\n' _).trans (List.suffix_append _ _)).isInfix
  have hright : unrows (before ++ rs) <:+: unrows (before ++ rs ++ after) := by
    by_cases ha : after = []
    · simp [ha]
    · rw [unrows_append (by simp [hne]) ha]
      exact (List.prefix_append _ _).isInfix
  exact hleft.trans hright

/-- Every row of a text stands in it. -/
theorem infix_of_mem_rows {r : Text} (h : r ∈ rows t) : r <:+: t := by
  obtain ⟨before, after, hrows⟩ := List.append_of_mem h
  have hrow : [r] <:+: rows t := ⟨before, after, by simp [hrows]⟩
  have ht := unrows_isInfix hrow (by simp)
  rwa [unrows_singleton, unrows_rows] at ht

/-- A row between others is determined by the text. -/
theorem unrows_around_inj {rs ss : List Text} (hr : rs ≠ []) (hs : ss ≠ []) {x y : Text} :
    unrows (rs ++ x :: ss) = unrows (rs ++ y :: ss) ↔ x = y := by
  refine ⟨fun h => ?_, fun h => by rw [h]⟩
  rw [unrows_append hr (by simp), unrows_append hr (by simp), ← List.singleton_append (x := x),
    ← List.singleton_append (x := y), unrows_append (by simp) hs, unrows_append (by simp) hs,
    List.append_cancel_left_eq, List.cons.injEq] at h
  simpa using h.2

/-! ## Trimming -/

theorem trimEndBy_eq (p : Char → Bool) (t : Text) : trimEndBy p t = t.rdropWhile p := rfl

theorem trimEndBy_cons_of_ne (h : trimEndBy p t ≠ []) :
    trimEndBy p (c :: t) = c :: trimEndBy p t := by
  unfold trimEndBy at h ⊢
  rw [ne_eq, List.reverse_eq_nil_iff] at h
  rw [List.reverse_cons, List.dropWhile_append, if_neg (by simpa using h)]
  simp

theorem trimEndBy_cons_of_neg (h : p c = false) :
    trimEndBy p (c :: t) = c :: trimEndBy p t := by
  by_cases ht : trimEndBy p t = []
  · rw [ht]
    unfold trimEndBy at ht ⊢
    rw [List.reverse_eq_nil_iff] at ht
    rw [List.reverse_cons, List.dropWhile_append, if_pos (by simp [ht])]
    simp [h]
  · exact trimEndBy_cons_of_ne ht

theorem trimEndBy_cons_of_pos (h : p c = true) (ht : trimEndBy p t = []) :
    trimEndBy p (c :: t) = [] := by
  unfold trimEndBy at ht ⊢
  rw [List.reverse_eq_nil_iff] at ht
  rw [List.reverse_cons, List.dropWhile_append, if_pos (by simp [ht])]
  simp [h]

/-- The two ends are trimmed independently. -/
theorem trimStartBy_trimEndBy (p : Char → Bool) (t : Text) :
    trimStartBy p (trimEndBy p t) = trimEndBy p (trimStartBy p t) := by
  induction t with
  | nil => rfl
  | cons c t ih =>
    unfold trimStartBy at ih ⊢
    by_cases hc : p c = true
    · rw [List.dropWhile_cons_of_pos hc, ← ih]
      -- is there anything but blanks behind `c`?
      by_cases ht : trimEndBy p t = []
      · rw [trimEndBy_cons_of_pos hc ht, ht]
      · rw [trimEndBy_cons_of_ne ht, List.dropWhile_cons_of_pos hc]
    · rw [trimEndBy_cons_of_neg (by simpa using hc), List.dropWhile_cons_of_neg hc,
        List.dropWhile_cons_of_neg hc, trimEndBy_cons_of_neg (by simpa using hc)]

theorem trimEndBy_concat {x : Char} (hc : p c = false) (hx : p x = true) :
    trimEndBy p (t ++ [c, x]) = t ++ [c] := by
  rw [trimEndBy_eq, ← List.singleton_append (x := c), ← List.append_assoc,
    List.rdropWhile_concat_pos _ _ _ hx, List.rdropWhile_concat_neg _ _ _ (by simp [hc])]

theorem trimEndBy_trimEndBy (p : Char → Bool) (t : Text) :
    trimEndBy p (trimEndBy p t) = trimEndBy p t := List.rdropWhile_idempotent p t

theorem trimStartBy_trimStartBy (p : Char → Bool) (t : Text) :
    trimStartBy p (trimStartBy p t) = trimStartBy p t := List.dropWhile_idempotent p t

@[simp] theorem trim_trim (t : Text) : trim (trim t) = trim t := by
  simp only [trim, trimBy, trimStartBy_trimEndBy, trimStartBy_trimStartBy, trimEndBy_trimEndBy]

@[simp] theorem trim_trimStart (t : Text) : trim (trimStart t) = trim t := by
  simp only [trim, trimBy, trimStart, trimStartBy_trimStartBy]

@[simp] theorem trim_nil : trim [] = [] := rfl

theorem trim_cons_blank (h : isBlank c = true) : trim (c :: t) = trim t := by
  unfold trim trimBy trimStartBy; rw [List.dropWhile_cons_of_pos h]

/-- What does not start with a blank is trimmed at its end only. -/
theorem trim_cons (h : isBlank c = false) : trim (c :: t) = c :: trimEndBy isBlank t := by
  unfold trim trimBy trimStartBy
  rw [List.dropWhile_cons_of_neg (by simp [h]), trimEndBy_cons_of_neg h]

theorem trim_append_blank (h : isBlank c = true) : trim (t ++ [c]) = trim t := by
  simp only [trim, trimBy, ← trimStartBy_trimEndBy]
  rw [trimEndBy_eq, trimEndBy_eq, List.rdropWhile_concat_pos _ _ _ h]

/-- A text is trimmed if neither its first nor its last character is blank. -/
theorem trim_eq_self (hh : ∀ c, t.head? = some c → isBlank c = false)
    (hl : ∀ c, t.getLast? = some c → isBlank c = false) : trim t = t := by
  cases t with
  | nil => rfl
  | cons c t =>
    have hc := hh c rfl
    rw [trim_cons hc, ← trimEndBy_cons_of_neg hc, trimEndBy_eq, List.rdropWhile_eq_self_iff]
    intro hne
    rw [hl _ (List.getLast?_eq_some_getLast hne)]
    simp

/-- The first character of a trimmed text is not blank. -/
theorem not_isBlank_head (h : trim (c :: t) = c :: t) : isBlank c = false := by
  by_contra hc
  rw [Bool.not_eq_false] at hc
  rw [trim_cons_blank hc] at h
  have hle : (trim t).length ≤ t.length := by
    unfold trim trimBy trimStartBy
    exact ((List.rdropWhile_prefix _ _).length_le).trans (List.dropWhile_suffix _).length_le
  rw [h, List.length_cons] at hle
  omega

/-- The last character of a trimmed text is not blank. -/
theorem not_isBlank_getLast (h : trim t = t) (hc : t.getLast? = some c) : isBlank c = false := by
  have hend : t.rdropWhile isBlank = t := by
    rw [← h]; exact trimEndBy_trimEndBy isBlank _
  have hne : t ≠ [] := by rintro rfl; simp at hc
  rw [List.getLast?_eq_some_getLast hne, Option.some.injEq] at hc
  rw [← hc, ← Bool.not_eq_true]
  exact List.rdropWhile_eq_self_iff.1 hend hne

theorem trim_blanks_append (h : u.all isBlank = true) : trim (u ++ t) = trim t := by
  induction u with
  | nil => rfl
  | cons c u ih =>
    rw [List.all_cons, Bool.and_eq_true] at h
    rw [List.cons_append, trim_cons_blank h.1, ih h.2]

theorem trim_append_blanks (h : u.all isBlank = true) : trim (t ++ u) = trim t := by
  induction u generalizing t with
  | nil => rw [List.append_nil]
  | cons c u ih =>
    rw [List.all_cons, Bool.and_eq_true] at h
    rw [← List.singleton_append, ← List.append_assoc, ih h.2, trim_append_blank h.1]

/-- Nothing is left of a text exactly if all of it is blank. -/
theorem trim_eq_nil_iff : trim t = [] ↔ t.all isBlank = true := by
  constructor
  · intro h
    induction t with
    | nil => rfl
    | cons c t ih =>
      cases hc : isBlank c with
      | true =>
        rw [trim_cons_blank hc] at h
        rw [List.all_cons, hc, ih h]
        rfl
      | false => rw [trim_cons hc] at h; cases h
  · intro h
    rw [← List.append_nil t, trim_blanks_append h, trim_nil]

/-- A text is what trimming leaves of it, between characters of the class. -/
theorem exists_around_trimBy (p : Char → Bool) (t : Text) :
    ∃ left right : Text, left.all p = true ∧ right.all p = true ∧
      t = left ++ trimBy p t ++ right := by
  refine ⟨t.takeWhile p, (t.dropWhile p).rtakeWhile p, List.all_takeWhile, ?_, ?_⟩
  · rw [List.all_eq_true]
    intro c hc
    exact List.mem_rtakeWhile_imp hc
  · have hend : trimBy p t ++ (t.dropWhile p).rtakeWhile p = t.dropWhile p :=
      List.rdropWhile_append_rtakeWhile
    rw [List.append_assoc, hend, List.takeWhile_append_dropWhile]

theorem exists_blanks_around_trim (t : Text) :
    ∃ left right : Text, left.all isBlank = true ∧ right.all isBlank = true ∧
      t = left ++ trim t ++ right := exists_around_trimBy isBlank t

theorem mem_of_mem_trim (h : c ∈ trim t) : c ∈ t := by
  obtain ⟨left, right, -, -, ht⟩ := exists_blanks_around_trim t
  rw [ht]
  exact List.mem_append_left _ (List.mem_append_right _ h)

/-! ## Bytes -/

theorem byteLength_append (t u : Text) : byteLength (t ++ u) = byteLength t + byteLength u := by
  have hfrom : ∀ (u : Text) (n : ℕ),
      u.foldl (fun size c => size + c.utf8Size) n = n + byteLength u := by
    intro u
    induction u with
    | nil => exact fun n => rfl
    | cons c u ih =>
      intro n
      rw [byteLength, List.foldl_cons, List.foldl_cons, ih, ih]
      omega
  rw [byteLength, List.foldl_append, hfrom, hfrom t]
  omega

theorem byteLength_le_of_prefix (h : t <+: u) : byteLength t ≤ byteLength u := by
  obtain ⟨v, rfl⟩ := h
  rw [byteLength_append]
  omega

/-! ## Sorted texts -/

theorem mem_insertSorted_iff {us : List Text} : u ∈ insertSorted t us ↔ u = t ∨ u ∈ us := by
  induction us with
  | nil => simp [insertSorted]
  | cons v us ih =>
    unfold insertSorted
    split_ifs with hlt heq
    · simp
    · subst heq; simp
    · rw [List.mem_cons, ih, List.mem_cons]; tauto

theorem pairwise_insertSorted {us : List Text} (h : us.Pairwise (· < ·)) :
    (insertSorted t us).Pairwise (· < ·) := by
  induction us with
  | nil => simp [insertSorted]
  | cons v us ih =>
    rw [List.pairwise_cons] at h
    unfold insertSorted
    split_ifs with hlt heq
    · refine List.pairwise_cons.2 ⟨fun u hu => ?_, List.pairwise_cons.2 h⟩
      rcases List.mem_cons.1 hu with rfl | hu
      · exact hlt
      · exact List.lt_trans hlt (h.1 u hu)
    · exact List.pairwise_cons.2 h
    · refine List.pairwise_cons.2 ⟨fun u hu => ?_, ih h.2⟩
      rcases mem_insertSorted_iff.1 hu with rfl | hu
      · by_contra hvu
        exact heq (List.le_antisymm (List.not_lt.1 hvu) (List.not_lt.1 hlt))
      · exact h.1 u hu

theorem mem_sortedSet_iff {ts : List Text} : u ∈ sortedSet ts ↔ u ∈ ts := by
  induction ts with
  | nil => rfl
  | cons t ts ih =>
    change u ∈ insertSorted t (sortedSet ts) ↔ _
    rw [mem_insertSorted_iff, ih, List.mem_cons]

theorem pairwise_sortedSet (ts : List Text) : (sortedSet ts).Pairwise (· < ·) := by
  induction ts with
  | nil => exact .nil
  | cons t ts ih => exact pairwise_insertSorted ih

/-- Texts that a filter drops do not show in what it leaves. -/
theorem filter_sortedSet_append {q : Text → Bool} {ts us : List Text} (h : ∀ u ∈ us, q u = false) :
    (sortedSet (ts ++ us)).filter q = (sortedSet ts).filter q := by
  refine ((pairwise_sortedSet _).filter q).eq_of_mem_iff ((pairwise_sortedSet _).filter q) ?_
  intro u
  simp only [List.mem_filter, mem_sortedSet_iff, List.mem_append]
  constructor
  · rintro ⟨hu | hu, hq⟩
    · exact ⟨hu, hq⟩
    · rw [h u hu] at hq; cases hq
  · rintro ⟨hu, hq⟩
    exact ⟨.inl hu, hq⟩

end RosBindings.Text

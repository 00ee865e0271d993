import RosBindings.Placeholder
import RosBindings.Proofs.Text

/-!
# Laws of substitution

* `keyAt?_eq_some_iff` says which texts start with a placeholder.
* `scan_induction` follows the parts of a text.
* `substitute_append` cuts a text where no placeholder can go across, for instance at a
  line feed; so `substitute_unrows` fills a text row by row.
* `substitute_around` fills what is before and behind a placeholder on its own.
* `substitute_plain_append` and `substitute_written_append` read a text from the left,
  piece by piece.
* `substitute_eq_self_iff` says when nothing changes: none of the bound placeholders is there.
-/

namespace RosBindings

namespace Bindings

variable {b : Bindings} {n k v : Text}

theorem lookup_put (b : Bindings) (n k v : Text) :
    (b.put n v).lookup k = if k = n then some v else b.lookup k := by
  induction b with
  | nil =>
    rw [put, List.lookup_cons, List.lookup_nil]
    by_cases h : k = n <;> simp [h, beq_eq_false_iff_ne.2]
  | cons p b ih =>
    obtain ⟨m, w⟩ := p
    unfold put
    by_cases hm : m = n
    · subst hm
      rw [if_pos rfl, List.lookup_cons, List.lookup_cons]
      by_cases h : k = m <;> simp [h, beq_eq_false_iff_ne.2]
    · rw [if_neg hm, List.lookup_cons, List.lookup_cons, ih]
      by_cases h : k = m
      · subst h; simp [hm]
      · simp [beq_eq_false_iff_ne.2 h]

@[simp] theorem lookup_put_self : (b.put n v).lookup n = some v := by
  rw [lookup_put, if_pos rfl]

theorem lookup_put_of_ne (h : k ≠ n) : (b.put n v).lookup k = b.lookup k := by
  rw [lookup_put, if_neg h]

end Bindings

namespace Placeholder

variable {b : Bindings} {c : Char} {t u name : Text}

/-! ## Taking a text apart -/

/-- Whether a text is the name of a placeholder. -/
def isKey : Text → Bool
  | [] => false
  | c :: cs => isKeyStart c && cs.all isKeyChar

/-- Whether a character ends every placeholder that is still open before it, without being
its closing brace. -/
def isBoundary (c : Char) : Bool := !isKeyChar c && c != '{' && c != '}'

theorem isKeyChar_of_isKeyStart (h : isKeyStart c = true) : isKeyChar c = true := by
  unfold isKeyStart at h
  unfold isKeyChar Char.isAlphanum
  rcases Bool.or_eq_true_iff.1 h with h | h <;> simp [h]

theorem isKeyChar_of_mem (hk : isKey name = true) (hc : c ∈ name) : isKeyChar c = true := by
  rcases name with _ | ⟨d, name⟩
  · simp at hc
  · rw [isKey, Bool.and_eq_true, List.all_eq_true] at hk
    rcases List.mem_cons.1 hc with rfl | hc
    · exact isKeyChar_of_isKeyStart hk.1
    · exact hk.2 c hc

theorem keyAt?_eq_some_iff : keyAt? t = some name ↔ isKey name = true ∧ written name <+: t := by
  constructor
  · intro h
    unfold keyAt? at h
    split at h
    · next c cs =>
      split at h
      · next rest hc hrest =>
        cases h
        refine ⟨by simp [isKey, hc, List.all_takeWhile], rest, ?_⟩
        have hcs : cs = cs.takeWhile isKeyChar ++ '}' :: rest := by
          rw [← hrest, List.takeWhile_append_dropWhile]
        conv_rhs => rw [hcs]
        simp [written]
      · cases h
    · cases h
  · rintro ⟨hk, u, rfl⟩
    rcases name with _ | ⟨c, cs⟩
    · simp [isKey] at hk
    · rw [isKey, Bool.and_eq_true, List.all_eq_true] at hk
      -- no name has a brace in it, so the name ends where it was closed
      have hbrace : isKeyChar '}' = false := by decide
      have htake : (cs ++ '}' :: u).takeWhile isKeyChar = cs := by
        rw [List.takeWhile_append_of_pos hk.2]; simp [hbrace]
      have hdrop : (cs ++ '}' :: u).dropWhile isKeyChar = '}' :: u := by
        rw [List.dropWhile_append_of_pos hk.2]; simp [hbrace]
      simp [written, keyAt?, hk.1, htake, hdrop]

theorem keyAt?_of_ne (h : c ≠ '$') : keyAt? (c :: t) = none := by
  unfold keyAt?
  split
  · next heq => exact absurd (List.cons.inj heq).1 h
  · rfl

/-- A placeholder at the start of a text does not go across a boundary. -/
theorem keyAt?_append (hne : t ≠ []) (hu : u.head?.all isBoundary = true) :
    keyAt? (t ++ u) = keyAt? t := by
  apply Option.ext
  intro name
  rw [keyAt?_eq_some_iff, keyAt?_eq_some_iff]
  refine and_congr_right fun hk => ⟨fun h => ?_, fun h => h.trans (List.prefix_append t u)⟩
  by_contra hnot
  -- the placeholder goes further than `t`, so its part behind `t` starts with the boundary
  have hpre : t <+: written name := by
    rcases List.prefix_or_prefix_of_prefix h (List.prefix_append t u) with hp | hp
    · exact absurd hp hnot
    · exact hp
  obtain ⟨r, hr⟩ := hpre
  rcases r with _ | ⟨d, r⟩
  · rw [List.append_nil] at hr; exact hnot (hr ▸ List.prefix_rfl)
  · have hd : u.head? = some d := by
      rw [← hr, List.prefix_append_right_inj] at h
      obtain ⟨s, rfl⟩ := h
      rfl
    have hmem : d ∈ '{' :: name ++ ['}'] := by
      obtain ⟨c, t, rfl⟩ := List.exists_cons_of_ne_nil hne
      have htail : t ++ d :: r = '{' :: name ++ ['}'] := (List.cons.inj hr).2
      rw [← htail]; simp
    have hb : isBoundary d = true := by rw [hd] at hu; exact hu
    have hchar : isKeyChar d = true ∨ d = '{' ∨ d = '}' := by
      simp only [List.cons_append, List.mem_cons, List.mem_append, List.not_mem_nil,
        or_false] at hmem
      rcases hmem with rfl | hmem | rfl
      · exact .inr (.inl rfl)
      · exact .inl (isKeyChar_of_mem hk hmem)
      · exact .inr (.inr rfl)
    rcases hchar with h | rfl | rfl <;> simp_all [isBoundary]

theorem scanFrom_eq_scan_drop (n : ℕ) (t : Text) : scanFrom n t = scan (t.drop n) := by
  induction t generalizing n with
  | nil => cases n <;> rfl
  | cons c t ih =>
    cases n with
    | zero => rfl
    | succ n => rw [scanFrom, ih n, List.drop_succ_cons]

@[simp] theorem scan_nil : scan [] = [] := rfl

theorem scan_cons_of_none (h : keyAt? (c :: t) = none) : scan (c :: t) = .char c :: scan t := by
  rw [scan, scanFrom, h]; rfl

theorem scan_written_append (hk : isKey name = true) :
    scan (written name ++ u) = .key name :: scan u := by
  have hkey : keyAt? (written name ++ u) = some name :=
    keyAt?_eq_some_iff.2 ⟨hk, List.prefix_append _ _⟩
  have hlen : name.length + 2 = ('{' :: name ++ ['}']).length := by simp
  have hcons : written name ++ u = '$' :: (('{' :: name ++ ['}']) ++ u) := rfl
  rw [hcons] at hkey ⊢
  rw [scan, scanFrom, hkey]
  simp only [scanFrom_eq_scan_drop, hlen, List.drop_left]

theorem length_written (name : Text) : (written name).length = name.length + 3 := by
  simp [written]

/-- **Induction along the parts of a text**: each one is a placeholder, or a character that does
not start one. -/
@[elab_as_elim]
theorem scan_induction {motive : Text → Prop} (nil : motive [])
    (key : ∀ name u, isKey name = true → motive u → motive (written name ++ u))
    (char : ∀ c t, keyAt? (c :: t) = none → motive t → motive (c :: t)) (t : Text) : motive t := by
  -- by length, since a placeholder takes several characters at once
  induction hn : t.length using Nat.strong_induction_on generalizing t with
  | _ n ih =>
    rcases t with _ | ⟨c, t⟩
    · exact nil
    · cases h : keyAt? (c :: t) with
      | none => exact char c t h (ih t.length (by rw [← hn, List.length_cons]; omega) t rfl)
      | some name =>
        obtain ⟨hk, u, hu⟩ := keyAt?_eq_some_iff.1 h
        have hlt : u.length < n := by
          rw [← hn, ← hu, List.length_append, length_written]; omega
        rw [← hu]
        exact key name u hk (ih u.length hlt u rfl)

theorem scan_append (hu : u.head?.all isBoundary = true) :
    scan (t ++ u) = scan t ++ scan u := by
  induction t using scan_induction with
  | nil => rfl
  | key name r hk ih =>
    rw [List.append_assoc, scan_written_append hk, ih, scan_written_append hk, List.cons_append]
  | char c t hnone ih =>
    have happ : keyAt? (c :: (t ++ u)) = none := by
      rw [← hnone]; exact keyAt?_append (List.cons_ne_nil c t) hu
    rw [List.cons_append, scan_cons_of_none happ, ih, scan_cons_of_none hnone, List.cons_append]

/-- The parts spell the text they were taken from. -/
theorem scan_spells (t : Text) : (scan t).flatMap (fill []) = t := by
  induction t using scan_induction with
  | nil => rfl
  | key name u hk ih => rw [scan_written_append hk, List.flatMap_cons, ih]; rfl
  | char c t hnone ih => rw [scan_cons_of_none hnone, List.flatMap_cons, ih]; rfl

/-- The name of a part that is a placeholder. -/
def Part.key? : Part → Option Text
  | .char _ => none
  | .key name => some name

/-- Every part stands somewhere in the text, and it is a placeholder if the text has one there. -/
theorem exists_of_mem_scan {part : Part} (h : part ∈ scan t) :
    ∃ before after, t = before ++ (fill [] part ++ after) ∧
      keyAt? (fill [] part ++ after) = part.key? := by
  induction t using scan_induction with
  | nil => cases h
  | key name u hk ih =>
    rw [scan_written_append hk] at h
    rcases List.mem_cons.1 h with rfl | h
    · exact ⟨[], u, rfl, keyAt?_eq_some_iff.2 ⟨hk, List.prefix_append _ _⟩⟩
    · obtain ⟨before, after, rfl, hkey⟩ := ih h
      exact ⟨written name ++ before, after, (List.append_assoc _ _ _).symm, hkey⟩
  | char c t hnone ih =>
    rw [scan_cons_of_none hnone] at h
    rcases List.mem_cons.1 h with rfl | h
    · exact ⟨[], t, rfl, hnone⟩
    · obtain ⟨before, after, rfl, hkey⟩ := ih h
      exact ⟨c :: before, after, rfl, hkey⟩

/-- What is taken for a placeholder is spelled as one. -/
theorem of_key_mem_scan (h : .key name ∈ scan t) : isKey name = true ∧ written name <:+: t := by
  obtain ⟨before, after, ht, hkey⟩ := exists_of_mem_scan h
  refine ⟨(keyAt?_eq_some_iff.1 hkey).1, before, after, ?_⟩
  rw [ht, List.append_assoc]
  rfl

/-! ## Filling -/

@[simp] theorem substitute_nil (b : Bindings) : substitute b [] = [] := rfl

theorem substitute_append (hu : u.head?.all isBoundary = true) :
    substitute b (t ++ u) = substitute b t ++ substitute b u := by
  rw [substitute, scan_append hu, List.flatMap_append]; rfl

theorem substitute_cons_of_none (h : keyAt? (c :: t) = none) :
    substitute b (c :: t) = c :: substitute b t := by
  rw [substitute, scan_cons_of_none h, List.flatMap_cons]; rfl

theorem substitute_cons_of_ne (h : c ≠ '$') : substitute b (c :: t) = c :: substitute b t :=
  substitute_cons_of_none (keyAt?_of_ne h)

/-- Text without a dollar sign is passed over. -/
theorem substitute_plain_append (h : '$' ∉ t) : substitute b (t ++ u) = t ++ substitute b u := by
  induction t with
  | nil => rfl
  | cons c t ih =>
    rw [List.mem_cons, not_or] at h
    rw [List.cons_append, substitute_cons_of_ne (Ne.symm h.1), ih h.2, List.cons_append]

theorem substitute_plain (h : '$' ∉ t) : substitute b t = t := by
  have hp := substitute_plain_append (b := b) (u := []) h
  rwa [List.append_nil, substitute_nil, List.append_nil] at hp

/-- A placeholder gives way to its value. -/
theorem substitute_written_append (hk : isKey name = true) :
    substitute b (written name ++ u) =
      (b.lookup name).getD (written name) ++ substitute b u := by
  rw [substitute, scan_written_append hk, List.flatMap_cons]; rfl

/-- No placeholder goes across a dollar sign, so one that is begun before another is left open. -/
theorem substitute_around (b : Bindings) (before after : Text) (hk : isKey name = true) :
    substitute b (before ++ written name ++ after) =
      substitute b before ++ (b.lookup name).getD (written name) ++ substitute b after := by
  have hdollar : (written name ++ after).head?.all isBoundary = true := rfl
  rw [List.append_assoc, substitute_append hdollar, substitute_written_append hk,
    List.append_assoc]

theorem substitute_unrows (b : Bindings) (rs : List Text) :
    substitute b (Text.unrows rs) = Text.unrows (rs.map (substitute b)) := by
  induction rs with
  | nil => rfl
  | cons r rs ih =>
    rcases rs with _ | ⟨s, rs⟩
    · simp
    · rw [Text.unrows_cons_cons, substitute_append (u := '\n' :: _) (by rfl), substitute_cons_of_ne (by decide), ih]
      simp only [List.map_cons, Text.unrows_cons_cons]

/-- **A text without any of the bound placeholders stays as it is.** -/
theorem substitute_eq_self
    (h : ∀ name value, isKey name = true → b.lookup name = some value → ¬ written name <:+: t) :
    substitute b t = t := by
  conv_rhs => rw [← scan_spells t]
  -- filled part by part, and a part that is no bound placeholder spells itself
  unfold substitute
  apply List.flatMap_congr
  intro part hp
  cases part with
  | char c => rfl
  | key name =>
    cases hl : b.lookup name with
    | none => simp [fill, hl]
    | some value =>
      obtain ⟨hk, hin⟩ := of_key_mem_scan hp
      exact absurd hin (h name value hk hl)

theorem count_substitute_le (hb : ∀ name value, b.lookup name = some value → '$' ∉ value)
    (t : Text) : (substitute b t).count '$' ≤ t.count '$' := by
  conv_rhs => rw [← scan_spells t]
  unfold substitute
  generalize scan t = parts
  induction parts with
  | nil => rfl
  | cons part parts ih =>
    rw [List.flatMap_cons, List.flatMap_cons, List.count_append, List.count_append]
    refine Nat.add_le_add ?_ ih
    cases part with
    | char c => exact le_rfl
    | key name =>
      cases hl : b.lookup name with
      | none => simp [fill, hl]
      | some value => simp [fill, hl, List.count_eq_zero.2 (hb name value hl)]

/-- Where the values have no dollar sign, a text stays as it is only without the bound
placeholders: each one that is filled takes its dollar sign away, and none comes back. -/
theorem substitute_eq_self_iff
    (hb : ∀ name value, b.lookup name = some value → isKey name = true ∧ '$' ∉ value) :
    substitute b t = t ↔ ∀ name value, b.lookup name = some value → ¬ written name <:+: t := by
  refine ⟨fun heq name value hv hin => ?_,
    fun h => substitute_eq_self fun name value _ hv => h name value hv⟩
  obtain ⟨p, s, rfl⟩ := hin
  obtain ⟨hk, hvalue⟩ := hb name value hv
  have hle := count_substitute_le fun n v h => (hb n v h).2
  have hfilled : substitute b (p ++ written name ++ s) =
      substitute b p ++ value ++ substitute b s := by
    rw [substitute_around b p s hk, hv, Option.getD_some]
  have hcount := congrArg (List.count '$') (heq.symm.trans hfilled)
  have hone : 0 < (written name).count '$' := List.count_pos_iff.2 (by simp [written])
  simp only [List.count_append, List.count_eq_zero.2 hvalue] at hcount
  have hp := hle p
  have hs := hle s
  omega

end Placeholder

end RosBindings

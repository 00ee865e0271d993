import RosBindings.Proofs.Substitution

/-!
# Passes of substitution

Values are put into a text once, and what they bring along is not looked at again. A text may
still be filled several times, first with the values of one section and then with those of the
class.

* `FillsPlaceholders`: what filling has to do, as two laws; `substitute_compositional`: it does,
  and no other function does.
* `IsTidy`: every dollar sign opens a placeholder; a tidy text may be cut at its end
  (`substitute_append_of_isTidy`).
* `substitute_substitute`: two passes over a tidy text are one pass that fills the values as well;
  `substitute_merged`: for values without dollar signs it is the pass of the merged bindings.
-/

namespace RosBindings

namespace Bindings

/-- Local values come first, the others where there is none. -/
theorem lookup_extend {locals : Bindings} (h : (locals.map Prod.fst).Nodup) (b : Bindings)
    (name : Text) : (b.extend locals).lookup name = (locals.lookup name).or (b.lookup name) := by
  induction locals generalizing b with
  | nil => rfl
  | cons entry locals ih =>
    obtain ⟨n, v⟩ := entry
    rw [List.map_cons, List.nodup_cons] at h
    have hstep : b.extend ((n, v) :: locals) = (b.put n v).extend locals := rfl
    rw [hstep, ih h.2, lookup_put, List.lookup_cons]
    by_cases hname : name = n
    · -- bound for the first time here, so by no later entry
      subst hname
      have hnone : locals.lookup name = none := by
        rw [List.lookup_eq_none_iff]
        intro entry hentry
        rw [bne_iff_ne]
        rintro rfl
        exact h.1 (List.mem_map.2 ⟨entry, hentry, rfl⟩)
      simp [hnone]
    · rw [if_neg hname, beq_eq_false_iff_ne.2 hname]

end Bindings

namespace Placeholder

variable {b globals locals : Bindings} {t u name : Text}

/-! ## The laws of filling -/

/-- A text without placeholders. -/
def IsBare (t : Text) : Prop := ∀ name, isKey name = true → ¬ written name <:+: t

/-- **The laws of filling.** -/
structure FillsPlaceholders (b : Bindings) (f : Text → Text) : Prop where
  /-- A placeholder gives way to its value, or stays if it has none. The value is taken as it is,
  and the texts on both sides are filled on their own. -/
  around : ∀ before name after : Text, isKey name = true →
    f (before ++ written name ++ after) =
      f before ++ (b.lookup name).getD (written name) ++ f after
  /-- A text without placeholders stays as it is. -/
  bare : ∀ t : Text, IsBare t → f t = t

theorem substitute_bare (b : Bindings) (h : IsBare t) : substitute b t = t :=
  substitute_eq_self fun name _ hk _ => h name hk

/-- The laws of filling leave no choice. -/
theorem FillsPlaceholders.unique {f g : Text → Text} (hf : FillsPlaceholders b f)
    (hg : FillsPlaceholders b g) : f = g := by
  funext t
  -- the texts around a placeholder are shorter
  induction hn : t.length using Nat.strong_induction_on generalizing t with
  | _ n ih =>
    by_cases h : IsBare t
    · rw [hf.bare t h, hg.bare t h]
    · unfold IsBare at h
      push Not at h
      obtain ⟨name, hk, before, after, rfl⟩ := h
      rw [List.length_append, List.length_append, length_written] at hn
      have hbefore := ih before.length (by omega) before rfl
      have hafter := ih after.length (by omega) after rfl
      rw [hf.around before name after hk, hg.around before name after hk, hbefore, hafter]

/-- **Filling is compositional, and does not look at what it put in.** Around every placeholder it
splits, whatever stands there, a placeholder that was begun and not ended included; without
placeholders nothing changes; and these two laws say all about it. -/
theorem substitute_compositional (b : Bindings) :
    FillsPlaceholders b (substitute b) ∧
      ∀ f : Text → Text, FillsPlaceholders b f → f = substitute b := by
  have hfills : FillsPlaceholders b (substitute b) :=
    ⟨fun before _ after hk => substitute_around b before after hk,
      fun _ h => substitute_bare b h⟩
  exact ⟨hfills, fun f hf => hf.unique hfills⟩

/-- A value that is a placeholder itself, between two that are not complete. -/
theorem substitute_compositional_nested :
    isKey "a" = true ∧
      substitute [("a", "$\x7bb\x7d"), ("b", "no")] ("$$\x7ba" ++ written "a" ++ "\x7d$\x7b") =
        "$$\x7ba" ++ "$\x7bb\x7d" ++ "\x7d$\x7b" := by
  have hk : isKey "a" = true := by decide
  refine ⟨hk, ?_⟩
  rw [(substitute_compositional _).1.around _ _ _ hk]
  decide

/-! ## Tidy texts -/

/-- Every dollar sign of a text opens a placeholder. -/
def IsTidy (t : Text) : Prop :=
  ∀ before after : Text, t = before ++ '$' :: after →
    ∃ name, isKey name = true ∧ written name <+: '$' :: after

theorem isTidy_iff : IsTidy t ↔ .char '$' ∉ scan t := by
  constructor
  · intro h hmem
    obtain ⟨before, after, ht, hnone⟩ := exists_of_mem_scan hmem
    obtain ⟨name, hname⟩ := h before after ht
    have hsome : keyAt? ('$' :: after) = some name := keyAt?_eq_some_iff.2 hname
    exact absurd (hnone.symm.trans hsome) (Option.some_ne_none name).symm
  · rintro h before after rfl
    have hdollar : ('$' :: after).head?.all isBoundary = true := rfl
    rw [scan_append hdollar, List.mem_append, not_or] at h
    cases hkey : keyAt? ('$' :: after) with
    | some name => exact ⟨name, keyAt?_eq_some_iff.1 hkey⟩
    | none =>
      rw [scan_cons_of_none hkey] at h
      exact absurd List.mem_cons_self h.2

instance decidableIsTidy : DecidablePred IsTidy := fun _ => decidable_of_iff _ isTidy_iff.symm

theorem IsTidy.of_written_append (h : IsTidy (written name ++ u)) : IsTidy u := by
  rintro before after rfl
  exact h (written name ++ before) after (List.append_assoc _ _ _).symm

theorem IsTidy.of_cons {c : Char} (h : IsTidy (c :: t)) : IsTidy t := by
  rintro before after rfl
  exact h (c :: before) after rfl

/-- A character of a tidy text that starts no placeholder is no dollar sign. -/
theorem IsTidy.ne_dollar {c : Char} (h : IsTidy (c :: t)) (hnone : keyAt? (c :: t) = none) :
    c ≠ '$' := by
  rintro rfl
  rw [isTidy_iff, scan_cons_of_none hnone] at h
  exact h List.mem_cons_self

theorem isTidy_of_not_mem (h : '$' ∉ t) : IsTidy t := by
  rintro before after rfl
  exact absurd (List.mem_append_right before List.mem_cons_self) h

/-- No placeholder goes across the end of a tidy text. -/
theorem substitute_append_of_isTidy (h : IsTidy t) (u : Text) :
    substitute b (t ++ u) = substitute b t ++ substitute b u := by
  induction t using scan_induction with
  | nil => rfl
  | key name r hk ih =>
    rw [List.append_assoc, substitute_written_append hk, ih h.of_written_append,
      substitute_written_append hk, List.append_assoc]
  | char c t hnone ih =>
    have hc := h.ne_dollar hnone
    rw [List.cons_append, substitute_cons_of_ne hc, ih h.of_cons, substitute_cons_of_ne hc,
      List.cons_append]

/-! ## Two passes -/

/-- **Two passes are one** over a tidy text with tidy values: the one that fills the values too. -/
theorem substitute_substitute {both : Bindings} (ht : IsTidy t)
    (hvalues : ∀ name value, locals.lookup name = some value → IsTidy value)
    (hboth : ∀ name, both.lookup name =
      ((locals.lookup name).map (substitute globals)).or (globals.lookup name)) :
    substitute globals (substitute locals t) = substitute both t := by
  induction t using scan_induction with
  | nil => rfl
  | key name u hk ih =>
    have hrest := ih ht.of_written_append
    rw [substitute_written_append hk, substitute_written_append hk, hboth name, ← hrest]
    cases hv : locals.lookup name with
    | none =>
      -- left by the first pass, so the second one comes to it
      rw [Option.getD_none, substitute_written_append hk, Option.map_none, Option.none_or]
    | some value =>
      rw [Option.getD_some, substitute_append_of_isTidy (hvalues name value hv), Option.map_some,
        Option.some_or, Option.getD_some]
  | char c t hnone ih =>
    have hc := ht.ne_dollar hnone
    rw [substitute_cons_of_ne hc, substitute_cons_of_ne hc, substitute_cons_of_ne hc,
      ih ht.of_cons]

/-- **Filling with local values and then with the others is filling once**, with the others
overridden by the local ones, if every dollar sign of the text opens a placeholder and no local
value has one. -/
theorem substitute_merged (ht : IsTidy t)
    (hlocals : ∀ name value, locals.lookup name = some value → '$' ∉ value)
    (globals : Bindings) :
    (∀ merged : Bindings,
      (∀ name, merged.lookup name = (locals.lookup name).or (globals.lookup name)) →
        substitute globals (substitute locals t) = substitute merged t) ∧
    ((locals.map Prod.fst).Nodup →
      substitute globals (substitute locals t) = substitute (globals.extend locals) t) := by
  -- the second pass finds nothing in the values of the first
  have hfilled : ∀ name,
      (locals.lookup name).map (substitute globals) = locals.lookup name := by
    intro name
    cases hv : locals.lookup name with
    | none => rfl
    | some value => rw [Option.map_some, substitute_plain (hlocals name value hv)]
  have hmerged : ∀ merged : Bindings,
      (∀ name, merged.lookup name = (locals.lookup name).or (globals.lookup name)) →
        substitute globals (substitute locals t) = substitute merged t := by
    intro merged hlookup
    refine substitute_substitute ht (fun name value hv => ?_) (fun name => ?_)
    · exact isTidy_of_not_mem (hlocals name value hv)
    · rw [hlookup, hfilled]
  exact ⟨hmerged, fun hnames => hmerged _ (Bindings.lookup_extend hnames globals)⟩

/-- What would be a placeholder across two values, a local one and another one before it. -/
theorem substitute_merged_seam :
    let t : Text := "$\x7bc\x7d$\x7ba\x7d"
    let locals : Bindings := [("a", "\x7bb\x7d")]
    let globals : Bindings := [("b", "1"), ("c", "$")]
    IsTidy t ∧ substitute globals (substitute locals t) = substitute (globals.extend locals) t ∧
      substitute (globals.extend locals) t = "$\x7bb\x7d" := by
  intro t locals globals
  have ht : IsTidy t := by decide
  have hlocals : ∀ name value, locals.lookup name = some value → '$' ∉ value := by
    intro name value hv
    rw [List.lookup_cons] at hv
    split at hv
    · rw [← Option.some.inj hv]
      decide
    · cases hv
  exact ⟨ht, (substitute_merged ht hlocals globals).2 (by decide), by decide⟩

-- a dollar sign that opens nothing may meet a value and make a placeholder of it
example : substitute [("b", "1")] (substitute [("a", "\x7bb\x7d")] "$$\x7ba\x7d") = "1" ∧
    substitute (Bindings.extend [("b", "1")] [("a", "\x7bb\x7d")]) "$$\x7ba\x7d" =
      "$\x7bb\x7d" := by decide

end Placeholder

end RosBindings

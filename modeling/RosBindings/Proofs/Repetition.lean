import RosBindings.Proofs.Text
import RosBindings.Repetition

/-!
# Repeated rows in closed form

Rows are repeated one by one, and each copy is put together from the indentation of the row, an
item and a separator. All copies of a row together are one text: the items joined, with a
separator and a new, indented row between any two of them.

* `Text.FirstAt`: where a marker occurs first; `Text.firstAt_of_cut?`: it is cut there.
* `unrows_copies`: the copies of a row, joined.
* `expand_closed_form`: a text with its marked rows repeated.
-/

namespace RosBindings

namespace Text

variable {marker t before after before' after' : Text}

/-! ## The first occurrence of a marker -/

/-- What stands before and behind the first occurrence of a marker in a text. -/
structure FirstAt (marker t before after : Text) : Prop where
  eq : t = before ++ marker ++ after
  first : ∀ before' after' : Text, t = before' ++ marker ++ after' →
    before.length ≤ before'.length

theorem FirstAt.unique (h : FirstAt marker t before after) (h' : FirstAt marker t before' after') :
    before = before' ∧ after = after' := by
  have hlength : before.length = before'.length := by
    have hle := h.first before' after' h'.eq
    have hge := h'.first before after h.eq
    omega
  have heq : before ++ marker ++ after = before' ++ marker ++ after' := h.eq.symm.trans h'.eq
  rw [List.append_assoc, List.append_assoc] at heq
  obtain ⟨hbefore, hrest⟩ := List.append_inj heq hlength
  exact ⟨hbefore, List.append_cancel_left hrest⟩

/-- A marker that does not start a text occurs first behind the first character. -/
theorem FirstAt.cons {c : Char} (hstart : ¬marker <+: c :: t)
    (h : FirstAt marker t before after) : FirstAt marker (c :: t) (c :: before) after := by
  refine ⟨by rw [h.eq]; rfl, ?_⟩
  intro before' after' heq
  cases before' with
  | nil => exact absurd ⟨after', heq.symm⟩ hstart
  | cons x before' =>
    have htail : t = before' ++ marker ++ after' := (List.cons.inj heq).2
    have hle := h.first before' after' htail
    simpa using hle

theorem isPrefixOf?_eq_none (h : marker.isPrefixOf? t = none) : ¬marker <+: t := by
  rintro ⟨rest, hrest⟩
  rw [List.isPrefixOf?_eq_some_iff_append_eq.2 hrest] at h
  cases h

/-- **A text is cut at the first occurrence of the marker.** -/
theorem firstAt_of_cut? (h : cut? marker t = some (before, after)) :
    FirstAt marker t before after := by
  induction t generalizing before with
  | nil =>
    rw [cut?] at h
    split at h
    · next hempty =>
      cases h
      rw [List.isEmpty_iff.1 hempty]
      exact ⟨rfl, fun _ _ _ => Nat.zero_le _⟩
    · cases h
  | cons c t ih =>
    rw [cut?] at h
    split at h
    · next rest hrest =>
      cases h
      have heq : marker ++ after = c :: t := List.isPrefixOf?_eq_some_iff_append_eq.1 hrest
      exact ⟨heq.symm, fun _ _ _ => Nat.zero_le _⟩
    · next hnone =>
      rw [Option.map_eq_some_iff] at h
      obtain ⟨⟨before', after'⟩, hcut, heq⟩ := h
      cases heq
      exact (ih hcut).cons (isPrefixOf?_eq_none hnone)

/-- **A text that is not cut does not hold the marker.** -/
theorem not_infix_of_cut? (hm : marker ≠ []) (h : cut? marker t = none) : ¬marker <:+: t := by
  induction t with
  | nil =>
    intro hin
    exact hm (List.infix_nil.1 hin)
  | cons c t ih =>
    rw [cut?] at h
    split at h
    · cases h
    · next hnone =>
      rw [Option.map_eq_none_iff] at h
      rw [List.infix_cons_iff, not_or]
      exact ⟨isPrefixOf?_eq_none hnone, ih h⟩

end Text

namespace Repetition

variable {marker row before tail : Text} {items : List Text}

/-! ## Copies of a row -/

theorem copies_ne_nil (hi : items ≠ []) (indent separator tail : Text) :
    copies indent separator tail items ≠ [] := by
  cases items with
  | nil => exact absurd rfl hi
  | cons item items =>
    cases items with
    | nil => exact List.cons_ne_nil _ _
    | cons next items => exact List.cons_ne_nil _ _

theorem expandRow_ne_nil (hi : items ≠ []) (marker separator row : Text) :
    expandRow marker items separator row ≠ [] := by
  unfold expandRow
  split
  · exact List.cons_ne_nil _ _
  · exact copies_ne_nil hi _ _ _

/-- **The copies of a row, joined.** -/
theorem unrows_copies (hi : items ≠ []) (indent separator tail : Text) :
    Text.unrows (copies indent separator tail items) =
      indent ++ Text.join (separator ++ '\n' :: indent) items ++ tail := by
  induction items with
  | nil => exact absurd rfl hi
  | cons item items ih =>
    cases items with
    | nil => rw [copies, Text.unrows_singleton, Text.join_singleton]
    | cons next items =>
      have hne : next :: items ≠ [] := List.cons_ne_nil _ _
      have hjoin : Text.join (separator ++ '\n' :: indent) (item :: next :: items) =
          item ++ (separator ++ '\n' :: indent)
            ++ Text.join (separator ++ '\n' :: indent) (next :: items) :=
        List.intercalate_cons_cons
      calc Text.unrows (copies indent separator tail (item :: next :: items))
          = Text.unrows ([indent ++ item ++ separator]
              ++ copies indent separator tail (next :: items)) := rfl
        _ = indent ++ item ++ separator
              ++ '\n' :: Text.unrows (copies indent separator tail (next :: items)) := by
            rw [Text.unrows_append (List.cons_ne_nil _ _) (copies_ne_nil hne _ _ _),
              Text.unrows_singleton]
        _ = indent ++ Text.join (separator ++ '\n' :: indent) (item :: next :: items) ++ tail := by
            rw [ih hne, hjoin]
            simp

theorem expandRow_of_unmarked (h : ¬marker <:+: row) (separator : Text) :
    expandRow marker items separator row = [row] := by
  cases hcut : Text.cut? marker row with
  | none => rw [expandRow, hcut]
  | some cut =>
    obtain ⟨before, after⟩ := cut
    have heq := (Text.firstAt_of_cut? hcut).eq
    exact absurd ⟨before, after, heq.symm⟩ h

theorem expandRow_of_firstAt (hm : marker ≠ []) (h : Text.FirstAt marker row before tail)
    (separator : Text) :
    expandRow marker items separator row =
      copies (Text.indentation row) separator tail items := by
  cases hcut : Text.cut? marker row with
  | none =>
    have hin : marker <:+: row := ⟨before, tail, h.eq.symm⟩
    exact absurd hin (Text.not_infix_of_cut? hm hcut)
  | some cut =>
    obtain ⟨before', tail'⟩ := cut
    obtain ⟨-, rfl⟩ := h.unique (Text.firstAt_of_cut? hcut)
    rw [expandRow, hcut]

theorem expand_eq (hi : items ≠ []) (marker text separator : Text) :
    expand marker text items separator =
      some (Text.unrows ((Text.rows text).map fun row =>
        Text.unrows (expandRow marker items separator row))) := by
  rw [expand, if_neg (by simpa using hi),
    Text.unrows_flatMap (expandRow_ne_nil hi marker separator)]

/-- **Repeated rows in closed form.** With items to repeat and a marker that is not empty, a text
is expanded row by row: one that does not hold the marker stays, and one that does becomes its
indentation, the items joined by the separator and a new row of this indentation, and what stood
behind the first occurrence of the marker. The items go in as they are, whatever they hold. -/
theorem expand_closed_form (marker text separator : Text) (items : List Text)
    (hm : marker ≠ []) (hi : items ≠ []) :
    expand? marker text items separator = some (expand marker text items separator) ∧
    ∃ become : Text → Text,
      expand marker text items separator =
        some (List.intercalate ['\n'] ((text.splitOn '\n').map become)) ∧
      (∀ row, ¬marker <:+: row → become row = row) ∧
      (∀ row before tail, Text.FirstAt marker row before tail →
        become row = row.takeWhile Text.isBlank
          ++ List.intercalate (separator ++ '\n' :: row.takeWhile Text.isBlank) items ++ tail) ∧
      ∀ row, marker <:+: row → ∃ before tail, Text.FirstAt marker row before tail := by
  refine ⟨?_, fun row => Text.unrows (expandRow marker items separator row), ?_, ?_, ?_, ?_⟩
  · rw [expand?, if_neg (by simp [hm])]
  · rw [expand_eq hi, Text.rows_eq_splitOn]
    rfl
  · intro row h
    show Text.unrows (expandRow marker items separator row) = row
    rw [expandRow_of_unmarked h, Text.unrows_singleton]
  · intro row before tail h
    show Text.unrows (expandRow marker items separator row) = _
    rw [expandRow_of_firstAt hm h, unrows_copies hi]
    rfl
  · intro row hin
    cases hcut : Text.cut? marker row with
    | none => exact absurd hin (Text.not_infix_of_cut? hm hcut)
    | some cut => exact ⟨cut.1, cut.2, Text.firstAt_of_cut? hcut⟩

/-- A row with two markers, and an item in two rows that holds the marker. -/
theorem expand_closed_form_nested :
    let items : List Text := ["a\n%", "b"]
    let text : Text := "f(\n  %); %\n)"
    let expanded : Text := "f(\n  a\n%,\n  b); %\n)"
    expand? "%" text items "," = some (some expanded) := by
  intro items text expanded
  obtain ⟨hsome, become, hexpand, hplain, hmarked, -⟩ :=
    expand_closed_form "%" text "," items (by decide) (by decide)
  have hfirst : Text.FirstAt "%" "  %); %" "  " "); %" := Text.firstAt_of_cut? (by decide)
  have hopen : become "f(" = "f(" := hplain _ (Text.not_infix_of_cut? (by decide) (by decide))
  have hclose : become ")" = ")" := hplain _ (Text.not_infix_of_cut? (by decide) (by decide))
  have hrows : text.splitOn '\n' = [("f(" : Text), "  %); %", ")"] := by decide
  rw [hsome, hexpand, hrows, List.map_cons, List.map_cons, List.map_cons, List.map_nil, hopen,
    hmarked _ _ _ hfirst, hclose]
  decide

end Repetition

end RosBindings

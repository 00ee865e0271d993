import RosBindings.Proofs.CommentEnds

/-!
# Documentation comments line by line

A documentation comment has a line for each line of its text, between the one that opens it and
the one that closes it, all at the depth of the writer. Only the last of them ends a comment.

* `Escapes` says what it means to replace the ends of comments in a text, whatever the way to find
  them; `escapes_escapeEnd` says that this is what the escaping does.
* `starred` is a line of a text as the comment shows it.
* `javadoc_line_by_line`: the lines that a documentation comment adds.
-/

namespace RosBindings

namespace CodeWriter

theorem indent_of_ne_nil {unit r : Text} {n : ℕ} (h : r ≠ []) :
    indent unit n r = (List.replicate n unit).flatten ++ r := if_neg (by simpa using h)

/-- A block of rows is written row by row. -/
theorem block_unrows (w : CodeWriter) {rs : List Text} (h : ∀ r ∈ rs, '\n' ∉ r) (hne : rs ≠ []) :
    w.block (Text.unrows rs) =
      { w with written := w.written ++ rs.map (indent w.unit w.level) } := by
  rw [block, Text.rows_unrows h hne]

end CodeWriter

namespace JavaClass

open CodeWriter (indent indent_of_ne_nil)
open Template (docRow docRows)

/-! ## Ends of comments replaced -/

/-- One text is another in which all ends of comments are replaced: the parts between them are
the same, and hold none. -/
def Escapes (t u : Text) : Prop :=
  ∃ parts, (∀ p ∈ parts, ¬ commentEnd <:+: p) ∧
    t = Text.join commentEnd parts ∧ u = Text.join "*&#47;" parts

/-- **The escaping replaces every end of a comment.** -/
theorem escapes_escapeEnd (t : Text) : Escapes t (escapeEnd t) := by
  -- the text always has a first part, which grows by the characters in front of it
  suffices h : ∃ p ps, (∀ q ∈ p :: ps, ¬ commentEnd <:+: q) ∧
      t = Text.join commentEnd (p :: ps) ∧ escapeEnd t = Text.join "*&#47;" (p :: ps) by
    obtain ⟨p, ps, h⟩ := h
    exact ⟨p :: ps, h⟩
  fun_induction escapeEnd t with
  | case1 => exact ⟨[], [], by simp [commentEnd], rfl, rfl⟩
  | case2 cs ih =>
    obtain ⟨p, ps, hfree, ht, hu⟩ := ih
    refine ⟨[], p :: ps, List.forall_mem_cons.2 ⟨by simp [commentEnd], hfree⟩, ?_, ?_⟩
    · rw [Text.join_nil_cons, ← ht]
      rfl
    · rw [Text.join_nil_cons, hu]
  | case3 c cs hend ih =>
    obtain ⟨p, ps, hfree, ht, hu⟩ := ih
    rw [List.forall_mem_cons] at hfree
    refine ⟨c :: p, ps, List.forall_mem_cons.2 ⟨?_, hfree.2⟩, ?_, ?_⟩
    · rw [commentEnd_infix_cons, not_or]
      refine ⟨?_, hfree.1⟩
      rintro ⟨rfl, hslash⟩
      obtain ⟨rest, rfl⟩ := List.head?_eq_some_iff.1 hslash
      rw [Text.join_cons_char] at ht
      exact hend _ rfl ht
    · rw [Text.join_cons_char, ← ht]
    · rw [Text.join_cons_char, hu]

/-! ## Lines of a comment -/

/-- A line of a text as a documentation comment shows it: behind a star, with all ends of comments
replaced. An empty line is the star alone. -/
def starred (line : Text) : Text := if line = [] then " *" else " * " ++ escapeEnd line

theorem docRow_escapeEnd (line : Text) : docRow (escapeEnd line) = starred line := by
  have hnil : escapeEnd line = [] ↔ line = [] := by
    rw [← List.head?_eq_none_iff, head?_escapeEnd, List.head?_eq_none_iff]
  simp only [docRow, starred, List.isEmpty_iff, hnil]

theorem commentEnd_not_infix_starred (line : Text) : ¬ commentEnd <:+: starred line := by
  unfold starred
  split
  · exact commentEnd_not_infix_star
  · rw [commentEnd_infix_star_append]
    exact commentEnd_not_infix_escapeEnd line

/-- The lines of a documentation comment stand at their depth one by one. -/
theorem map_indent_docRows (unit : Text) (n : ℕ) (t : Text) :
    let indentation := (List.replicate n unit).flatten
    (docRows (javadocRows t)).map (indent unit n) =
      ((indentation ++ ("/**" : Text)) :: (Text.rows t).map (fun line => indentation ++ starred line))
        ++ [indentation ++ (" */" : Text)] := by
  intro indentation
  have hopen : indent unit n "/**" = indentation ++ ("/**" : Text) := indent_of_ne_nil (by decide)
  have hclose : indent unit n " */" = indentation ++ (" */" : Text) := indent_of_ne_nil (by decide)
  have hline : ∀ line ∈ Text.rows t,
      indent unit n (docRow (escapeEnd line)) = indentation ++ starred line := by
    intro line _
    rw [indent_of_ne_nil (docRow_ne_nil _), docRow_escapeEnd]
  rw [docRows, javadocRows]
  simp only [List.map_cons, List.map_append, List.map_map, List.map_nil, hopen, hclose,
    List.cons_append]
  congr 2
  exact List.map_congr_left hline

/-- **Documentation comments are written line by line.** A comment of any text, at any depth, adds
one line for each line of the text and two more, and changes nothing else. The first opens the
comment, the last closes it, and those between them show the lines of the text, with all ends of
comments replaced. As long as there is no star in the indentation, none but the last line holds the
end of a comment, and the comment ends where that line does. -/
theorem javadoc_line_by_line {style : Style} (hp : style.IsPackaged) (b : Build) (text : Text) :
    let indentation := (List.replicate b.writer.level b.writer.unit).flatten
    let above : List Text :=
      (indentation ++ "/**") :: (Text.rows text).map fun line => indentation ++ starred line
    let lines : List Text := above ++ [indentation ++ " */"]
    writeJavadoc style text b =
      .ok { b with writer := { b.writer with written := b.writer.written ++ lines } } ∧
    (Text.rows text).length = text.count '\n' + 1 ∧
    lines.length = (Text.rows text).length + 2 ∧
    (∀ line ∈ Text.rows text, Escapes line (escapeEnd line)) ∧
    ('*' ∉ b.writer.unit →
      (∀ line ∈ above, ¬ commentEnd <:+: line) ∧ EndsOnce (Text.unrows lines)) := by
  intro indentation above lines
  have hlines : (docRows (javadocRows text)).map (indent b.writer.unit b.writer.level) = lines :=
    map_indent_docRows _ _ text
  refine ⟨?_, Text.length_pieces _ text, by simp [lines, above], fun line _ => escapes_escapeEnd line,
    fun hunit => ?_⟩
  · rw [writeJavadoc_eq hp, Build.write,
      CodeWriter.block_unrows _ (fun r hr => feed_not_mem_docRows hr) (by simp [docRows]), hlines]
  · have hstar : '*' ∉ indentation := CodeWriter.not_mem_flatten_replicate hunit _
    have habove : above =
        (indentation ++ ("/**" : Text)) :: ((Text.rows text).map starred).map (indentation ++ ·) := by
      rw [List.map_map]
      rfl
    have hnone : ∀ line ∈ above, ¬ commentEnd <:+: line := by
      rw [habove, forall_above_iff hstar, List.forall_mem_map]
      exact fun line _ => commentEnd_not_infix_starred line
    have hclosed : lines = above ++ [(indentation ++ " ") ++ commentEnd] := by
      rw [List.append_assoc]
      rfl
    refine ⟨hnone, ?_⟩
    rw [hclosed, endsOnce_iff (by simp [hstar])]
    exact hnone

/-- Ends of comments next to each other and among other stars and slashes, and an empty line, two
levels deep. -/
theorem javadoc_line_by_line_nested :
    let style := Style.packaged "org.example" "id.jrosmessages" .ros1 ⟨[], []⟩
    let b : Build :=
      { className := "AMessage", writer := { level := 2, written := ["public enum A \x7b"] } }
    let lines : List Text :=
      ["        /**", "         * a**&#47;b*&#47;*&#47;c", "         *", "         * *&#47;/",
       "         */"]
    style.IsPackaged ∧ '*' ∉ b.writer.unit ∧
      writeJavadoc style "a**/b*/*/c\n\n*//" b =
        .ok { b with writer := { b.writer with written := b.writer.written ++ lines } } ∧
      (∀ line ∈ lines.dropLast, ¬ commentEnd <:+: line) ∧ EndsOnce (Text.unrows lines) := by
  intro style b lines
  have hp : style.IsPackaged := ⟨_, rfl⟩
  have hunit : '*' ∉ b.writer.unit := by decide
  obtain ⟨hwrite, -, -, -, hends⟩ := javadoc_line_by_line hp b "a**/b*/*/c\n\n*//"
  obtain ⟨habove, honce⟩ := hends hunit
  exact ⟨hp, hunit, hwrite, habove, honce⟩

end JavaClass

end RosBindings

import DocBridge.Markdown.Outline

/-!
# The lines of a source

A line ends at a line feed, a carriage return or both, so the lines before a line feed are those of
the text up to it, whatever stands behind. Other characters stay on their line, a null character as
a replacement character.
-/

namespace DocBridge.Markdown.Outline

variable {c : Char} {s : List Char}

/-- A character as it is read. -/
def shown (c : Char) : Char := if c = '\x00' then '\uFFFD' else c

theorem eq_of_shown_eq (h : shown c = '`') : c = '`' := by
  rw [shown] at h
  split at h
  · cases h
  · exact h

theorem sourceLines_cons_of_ne (acc rest : List Char) (hfeed : c ≠ '\n') (hreturn : c ≠ '\r') :
    sourceLines acc (c :: rest) = sourceLines (shown c :: acc) rest := by
  rw [sourceLines, if_neg (not_or_intro hfeed hreturn)]
  · rfl
  · exact fun _ hc _ => hreturn hc

theorem sourceLines_cons_of_lineEnd (acc : List Char) {rest : List Char} (hc : c = '\n' ∨ c = '\r')
    (hrest : c = '\r' → rest.head? ≠ some '\n') :
    sourceLines acc (c :: rest) = acc.reverse :: sourceLines [] rest := by
  rw [sourceLines, if_pos hc]
  · rintro others hreturn rfl
    exact hrest hreturn rfl

theorem sourceLines_lineFeed (acc rest : List Char) :
    sourceLines acc ('\n' :: rest) = acc.reverse :: sourceLines [] rest :=
  sourceLines_cons_of_lineEnd acc (.inl rfl) nofun

/-- What is not at a line end stays on the line that has begun. -/
theorem sourceLines_append_shown (acc rest : List Char) (hs : ∀ c ∈ s, c ≠ '\n' ∧ c ≠ '\r') :
    sourceLines acc (s ++ rest) = sourceLines ((s.map shown).reverse ++ acc) rest := by
  induction s generalizing acc with
  | nil => rfl
  | cons c s ih =>
      obtain ⟨⟨hfeed, hreturn⟩, hs⟩ := List.forall_mem_cons.mp hs
      rw [List.cons_append, sourceLines_cons_of_ne _ _ hfeed hreturn, ih _ hs, List.map_cons,
        List.reverse_cons, List.append_assoc, List.singleton_append]

/-- The lines before a line feed are read apart from those behind it. -/
theorem sourceLines_append_lineFeed (acc s rest : List Char) :
    sourceLines acc (s ++ '\n' :: rest) =
      sourceLines acc (s ++ ['\n']) ++ sourceLines [] rest := by
  induction acc, s using sourceLines.induct with
  | case1 | case2 => simp [sourceLines]
  | case3 acc others ih =>
      rw [List.cons_append, List.cons_append, List.cons_append, List.cons_append, sourceLines,
        sourceLines, ih, List.cons_append]
  | case4 acc c others hreturn hend ih =>
      cases others with
      | nil =>
          -- A carriage return at the end and the line feed are one line end.
          rcases hend with rfl | rfl <;> simp [sourceLines]
      | cons d others =>
          have hd (behind : List Char) : c = '\r' → (d :: others ++ behind).head? ≠ some '\n' :=
            fun hc hhead => hreturn others hc (by rw [Option.some.inj hhead])
          rw [List.cons_append (a := c), List.cons_append (a := c),
            sourceLines_cons_of_lineEnd acc hend (hd _),
            sourceLines_cons_of_lineEnd acc hend (hd _), ih]
          rfl
  | case5 acc c others hreturn hend ih =>
      obtain ⟨hfeed, hreturn⟩ := not_or.mp hend
      rw [List.cons_append, List.cons_append, sourceLines_cons_of_ne _ _ hfeed hreturn,
        sourceLines_cons_of_ne _ _ hfeed hreturn]
      exact ih

end DocBridge.Markdown.Outline

import DocBridge.Text.Lines

/-!
# Lines and texts

Splitting a text into lines and joining lines into a text undo each other: the lines of a text have
no line feeds in them, and lines without line feeds are read back from the text they make. What is
done to a text line by line is therefore undone line by line.
-/

namespace DocBridge.Text

theorem splitAt_eq_splitOn (separator : Char) (s : List Char) :
    splitAt separator s = s.splitOn separator := by
  induction s with
  | nil => rfl
  | cons c rest ih =>
      rw [splitAt, ih, List.splitOn_eq_splitOnP, List.splitOn_eq_splitOnP,
        List.splitOnP_cons_eq_if_modifyHead]
      by_cases hc : c = separator
      · rw [if_pos hc, if_pos (by simpa using hc)]
      · rw [if_neg hc, if_neg (by simpa using hc)]
        cases hparts : List.splitOnP (fun x => x == separator) rest with
        | nil => exact absurd hparts (List.splitOnP_ne_nil _ rest)
        | cons part others => rfl

/-- No part of a split text has the separator in it. -/
theorem not_mem_of_mem_splitAt {separator : Char} {s part : List Char}
    (h : part ∈ splitAt separator s) : separator ∉ part := by
  induction s generalizing part with
  | nil =>
      obtain rfl : part = [] := by simpa [splitAt] using h
      exact List.not_mem_nil
  | cons c rest ih =>
      rw [splitAt] at h
      by_cases hc : c = separator
      · rw [if_pos hc] at h
        rcases List.mem_cons.mp h with rfl | hpart
        · exact List.not_mem_nil
        · exact ih hpart
      · rw [if_neg hc] at h
        cases hparts : splitAt separator rest with
        | nil => exact absurd hparts (splitAt_ne_nil separator rest)
        | cons first others =>
            rw [hparts] at h ih
            rcases List.mem_cons.mp h with rfl | hpart
            · intro hmem
              rcases List.mem_cons.mp hmem with hsep | hmem
              · exact hc hsep.symm
              · exact ih List.mem_cons_self hmem
            · exact ih (List.mem_cons_of_mem first hpart)

theorem splitAt_of_not_mem {separator : Char} {s : List Char} (h : separator ∉ s) :
    splitAt separator s = [s] := by
  induction s with
  | nil => rfl
  | cons c rest ih =>
      obtain ⟨hc, hrest⟩ : separator ≠ c ∧ separator ∉ rest := by simpa using h
      rw [splitAt, if_neg (Ne.symm hc), ih hrest]

theorem split_of_not_mem {separator : Char} {s : String} (h : separator ∉ s.toList) :
    split separator s = [s] := by
  rw [split, splitAt_of_not_mem h, List.map_singleton, String.ofList_toList]

/-- A text without line feeds is one line. -/
theorem lines_of_not_mem {s : String} (h : '\n' ∉ s.toList) : lines s = [s] := split_of_not_mem h

theorem lines_ne_nil (s : String) : lines s ≠ [] := by
  intro h
  exact splitAt_ne_nil '\n' s.toList (List.map_eq_nil_iff.mp h)

theorem not_mem_of_mem_lines {s line : String} (h : line ∈ lines s) : '\n' ∉ line.toList := by
  obtain ⟨part, hpart, rfl⟩ := List.mem_map.mp h
  rw [String.toList_ofList]
  exact not_mem_of_mem_splitAt hpart

theorem joinLines_lines (s : String) : joinLines (lines s) = s := by
  have hparts : (lines s).map String.toList = s.toList.splitOn '\n' := by
    rw [lines, split, List.map_map, splitAt_eq_splitOn]
    exact List.map_id'' (fun part => String.toList_ofList) _
  apply String.toList_inj.mp
  rw [joinLines, String.toList_intercalate, hparts]
  exact List.intercalate_splitOn '\n'

/-- Lines are read back from the text they make. -/
theorem lines_joinLines {ls : List String} (hne : ls ≠ []) (h : ∀ line ∈ ls, '\n' ∉ line.toList) :
    lines (joinLines ls) = ls := by
  have hparts : ∀ part ∈ ls.map String.toList, '\n' ∉ part := by
    intro part hpart
    obtain ⟨line, hline, rfl⟩ := List.mem_map.mp hpart
    exact h line hline
  have hsplit : (joinLines ls).toList.splitOn '\n' = ls.map String.toList := by
    rw [joinLines, String.toList_intercalate]
    exact List.splitOn_intercalate '\n' hparts (mt List.map_eq_nil_iff.mp hne)
  rw [lines, split, splitAt_eq_splitOn, hsplit, List.map_map]
  exact List.map_id'' (fun line => String.ofList_toList) ls

theorem joinLines_append {ls others : List String} (hls : ls ≠ []) (hothers : others ≠ []) :
    joinLines (ls ++ others) = joinLines ls ++ "\n" ++ joinLines others := by
  induction ls with
  | nil => exact absurd rfl hls
  | cons first rest ih =>
      cases rest with
      | nil =>
          obtain ⟨second, others, rfl⟩ := List.exists_cons_of_ne_nil hothers
          simp [joinLines, String.intercalate_cons_cons]
      | cons next rest =>
          rw [joinLines] at ih ⊢
          rw [List.cons_append, List.cons_append, String.intercalate_cons_cons,
            ← List.cons_append, ih (List.cons_ne_nil _ _)]
          simp [joinLines, String.intercalate_cons_cons, String.append_assoc]

theorem joinLines_append_cons (s first : String) (rest : List String) :
    joinLines ((s ++ first) :: rest) = s ++ joinLines (first :: rest) := by
  cases rest with
  | nil => rfl
  | cons second rest =>
      rw [joinLines, joinLines, String.intercalate_cons_cons, String.intercalate_cons_cons]
      simp only [String.append_assoc]

/-- What is done to every line is undone line by line. -/
theorem mapM_map_of_leftInverse {change : String → String} {undo : String → Option String}
    (h : ∀ line, undo (change line) = some line) (ls : List String) :
    (ls.map change).mapM undo = some ls := by
  induction ls with
  | nil => rfl
  | cons line rest ih => rw [List.map_cons, List.mapM_cons, h, ih]; rfl

end DocBridge.Text

import DocBridge.Proofs.Text.Lines
import DocBridge.Text.Ascii
import DocBridge.Text.Blank

/-!
# Prose

Prose is words of ASCII letters with single spaces between them. It begins and ends with a letter
and has no other characters than letters and spaces, which is all that reading asks of it.
-/

namespace DocBridge.Text

variable {separator c : Char} {s init : List Char}

theorem mem_splitAt_of_mem (separator : Char) (h : c ∈ s) :
    c = separator ∨ ∃ part ∈ splitAt separator s, c ∈ part := by
  induction s with
  | nil => simp at h
  | cons d rest ih =>
      rw [splitAt]
      split
      · next hd =>
          rcases List.mem_cons.mp h with rfl | hrest
          · exact .inl hd
          · refine (ih hrest).imp id ?_
            rintro ⟨part, hpart, hc⟩
            exact ⟨part, List.mem_cons_of_mem _ hpart, hc⟩
      · cases hparts : splitAt separator rest with
        | nil => exact absurd hparts (splitAt_ne_nil separator rest)
        | cons first others =>
            rw [hparts] at ih
            rcases List.mem_cons.mp h with rfl | hrest
            · exact .inr ⟨c :: first, List.mem_cons_self, List.mem_cons_self⟩
            · refine (ih hrest).imp id ?_
              rintro ⟨part, hpart, hc⟩
              rcases List.mem_cons.mp hpart with rfl | hpart
              · exact ⟨d :: part, List.mem_cons_self, List.mem_cons_of_mem d hc⟩
              · exact ⟨part, List.mem_cons_of_mem _ hpart, hc⟩

/-- What begins with a separator, or is empty, has an empty part. -/
theorem exists_cons_of_nil_notMem_splitAt (h : [] ∉ splitAt separator s) :
    ∃ c rest, s = c :: rest ∧ c ≠ separator := by
  cases s with
  | nil => simp [splitAt] at h
  | cons c rest =>
      refine ⟨c, rest, rfl, ?_⟩
      rintro rfl
      simp [splitAt] at h

/-- What ends with a separator has an empty part. -/
theorem splitAt_concat (separator : Char) (init : List Char) :
    ∃ first others, splitAt separator (init ++ [separator]) = first :: others ∧ [] ∈ others := by
  induction init with
  | nil => exact ⟨[], [[]], by simp [splitAt], by simp⟩
  | cons c rest ih =>
      obtain ⟨first, others, hparts, hmem⟩ := ih
      rw [List.cons_append, splitAt, hparts]
      split
      · exact ⟨[], first :: others, rfl, List.mem_cons_of_mem _ hmem⟩
      · exact ⟨c :: first, others, rfl, hmem⟩

/-- Words of ASCII letters with single spaces between them. -/
def IsProse (s : String) : Prop :=
  ∀ word ∈ split ' ' s, word ≠ "" ∧ ∀ c ∈ word.toList, c.isAlpha = true

instance (s : String) : Decidable (IsProse s) :=
  decidable_of_iff
    ((split ' ' s).all (fun word => word != "" && word.toList.all Char.isAlpha) = true)
    (by simp [IsProse])

structure Prose where
  text : String
  isProse : IsProse text

namespace Prose

def chars (p : Prose) : List Char := p.text.toList

theorem ofList_chars (p : Prose) : String.ofList p.chars = p.text := String.ofList_toList

theorem parts (p : Prose) :
    ∀ part ∈ splitAt ' ' p.chars, part ≠ [] ∧ ∀ c ∈ part, c.isAlpha = true := by
  intro part hpart
  have hword : String.ofList part ∈ split ' ' p.text := List.mem_map_of_mem hpart
  obtain ⟨hne, halpha⟩ := p.isProse _ hword
  refine ⟨?_, by simpa using halpha⟩
  rintro rfl
  exact hne rfl

theorem isAlpha_or_eq_space (p : Prose) : ∀ c ∈ p.chars, c.isAlpha = true ∨ c = ' ' := by
  intro c hc
  rcases mem_splitAt_of_mem ' ' hc with hspace | ⟨part, hpart, hmem⟩
  · exact .inr hspace
  · exact .inl ((p.parts part hpart).2 c hmem)

theorem nil_notMem_splitAt (p : Prose) : [] ∉ splitAt ' ' p.chars :=
  fun h => (p.parts [] h).1 rfl

theorem exists_cons (p : Prose) : ∃ c rest, p.chars = c :: rest ∧ c.isAlpha = true := by
  obtain ⟨c, rest, hcons, hne⟩ := exists_cons_of_nil_notMem_splitAt p.nil_notMem_splitAt
  have hc : c ∈ p.chars := by simp [hcons]
  exact ⟨c, rest, hcons, (p.isAlpha_or_eq_space c hc).resolve_right hne⟩

theorem length_chars_pos (p : Prose) : 0 < p.chars.length := by
  obtain ⟨c, rest, hcons, -⟩ := p.exists_cons
  simp [hcons]

theorem chars_ne_nil (p : Prose) : p.chars ≠ [] := List.ne_nil_of_length_pos p.length_chars_pos

theorem text_ne_empty (p : Prose) : p.text ≠ "" := fun hempty =>
  p.chars_ne_nil (by rw [chars, hempty]; rfl)

theorem exists_concat (p : Prose) : ∃ init c, p.chars = init ++ [c] ∧ c.isAlpha = true := by
  have hne := p.chars_ne_nil
  have hlast := List.dropLast_concat_getLast hne
  refine ⟨_, _, hlast.symm, ?_⟩
  refine (p.isAlpha_or_eq_space _ (List.getLast_mem hne)).resolve_right fun hspace => ?_
  rw [hspace] at hlast
  obtain ⟨first, others, hparts, hmem⟩ := splitAt_concat ' ' p.chars.dropLast
  rw [hlast] at hparts
  exact p.nil_notMem_splitAt (by rw [hparts]; exact List.mem_cons_of_mem _ hmem)

end Prose

example : IsProse "Two words" ∧ ¬IsProse "two  spaces" ∧ ¬IsProse "" ∧ ¬IsProse " a" := by decide

end DocBridge.Text

/-!
# Entries in the order of their keys' appearance

Keyed entries as they were put one after another. A key occurs once, at the place where it was put
first, with what was put under it last.
-/

namespace DocBridge

abbrev Entries (κ α : Type) := List (κ × α)

namespace Entries

variable {κ α : Type} [BEq κ]

def find? (entries : Entries κ α) (key : κ) : Option α := entries.lookup key

/-- Puts a value in the place of the one under its key, or at the end. -/
def put (key : κ) (value : α) : Entries κ α → Entries κ α
  | [] => [(key, value)]
  | (k, v) :: rest => if key == k then (key, value) :: rest else (k, v) :: put key value rest

def remove (key : κ) (entries : Entries κ α) : Entries κ α := entries.filter (·.1 != key)

theorem find?_put_self [LawfulBEq κ] (key : κ) (value : α) (entries : Entries κ α) :
    find? (put key value entries) key = some value := by
  induction entries with
  | nil => simp [put, find?]
  | cons entry rest ih =>
    obtain ⟨k, v⟩ := entry
    unfold put
    split
    · simp [find?]
    · next h =>
      simp only [find?, List.lookup_cons, h] at ih ⊢
      exact ih

theorem find?_put_of_ne [LawfulBEq κ] {key other : κ} (h : other ≠ key) (value : α)
    (entries : Entries κ α) : find? (put key value entries) other = find? entries other := by
  have hne : (other == key) = false := beq_eq_false_iff_ne.2 h
  induction entries with
  | nil => simp [put, find?, List.lookup_cons, hne]
  | cons entry rest ih =>
    obtain ⟨k, v⟩ := entry
    unfold put
    split
    · next heq =>
      obtain rfl : key = k := eq_of_beq heq
      simp [find?, List.lookup_cons, hne]
    · simp only [find?, List.lookup_cons] at ih ⊢
      rw [ih]

theorem find?_put [LawfulBEq κ] (key other : κ) (value : α) (entries : Entries κ α) :
    find? (put key value entries) other =
      if other == key then some value else find? entries other := by
  split
  · next h => rw [eq_of_beq h, find?_put_self]
  · next h => exact find?_put_of_ne (mt beq_iff_eq.mpr h) value entries

end Entries

end DocBridge

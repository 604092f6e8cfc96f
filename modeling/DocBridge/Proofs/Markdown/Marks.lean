import DocBridge.Markdown.Outline
import Mathlib.Algebra.Group.Nat.Defs
import Mathlib.Data.List.Induction

/-!
# Levels and markers

The level of a heading and the number of a list fit into a machine word, and one of two delimiters
follows the number. So it is for every block that a line begins: a heading has at most six hashes
and the number of a list at most nine digits.
-/

namespace DocBridge.Text

variable {base : Nat} {digits : List Char}

theorem valueOf_lt (h : ∀ c ∈ digits, digitValue c < base) :
    valueOf base digits < base ^ digits.length := by
  rw [valueOf]
  induction digits using List.reverseRecOn with
  | nil => simp
  | append_singleton digits c ih =>
      have hc := h c (by simp)
      have hrest := ih fun d hd => h d (by simp [hd])
      rw [List.foldl_append, List.foldl_cons, List.foldl_nil, List.length_append,
        List.length_singleton, Nat.pow_succ]
      generalize digits.foldl (fun n d => n * base + digitValue d) 0 = n at hrest ⊢
      calc n * base + digitValue c < (n + 1) * base := by rw [Nat.succ_mul]; omega
        _ ≤ base ^ digits.length * base := Nat.mul_le_mul_right base hrest

theorem digitValue_lt_ten {c : Char} (hc : c.isDigit = true) : digitValue c < 10 := by
  rw [digitValue, if_pos hc]
  rw [Char.isDigit, Bool.and_eq_true, decide_eq_true_eq, decide_eq_true_eq] at hc
  have : c.toNat ≤ 57 := hc.2
  have : '0'.toNat = 48 := rfl
  omega

/-- Nine digits fit into a word. -/
theorem valueOf_ten_lt (hdigits : digits.all Char.isDigit = true) (hlength : digits.length ≤ 9) :
    valueOf 10 digits < UInt64.size := by
  have hdigit : ∀ c ∈ digits, digitValue c < 10 :=
    fun c hc => digitValue_lt_ten (List.all_eq_true.mp hdigits c hc)
  calc valueOf 10 digits < 10 ^ digits.length := valueOf_lt hdigit
    _ ≤ 10 ^ 9 := Nat.pow_le_pow_right (by decide) hlength
    _ < UInt64.size := by decide

end DocBridge.Text

namespace DocBridge.Markdown

/-- The number of a list fits into a word, and its delimiter is a period or a parenthesis. -/
def Marker.Fits : Marker → Prop
  | bullet _ => True
  | ordered start delimiter => start < UInt64.size ∧ (delimiter = '.' ∨ delimiter = ')')

/-- All levels and markers in a block fit. -/
inductive Block.Fits {α : Type} : Block α → Prop
  | paragraph (content : α) : Fits (paragraph content)
  | heading {level : Nat} (hlevel : level < UInt64.size) (content : α) :
      Fits (heading level content)
  | code (language : Option String) (text : String) : Fits (code language text)
  | quote {blocks : List (Block α)} (hblocks : ∀ b ∈ blocks, Fits b) : Fits (quote blocks)
  | list {marker : Marker} (hmarker : marker.Fits) (isTight : Bool)
      {items : List (List (Block α))} (hitems : ∀ item ∈ items, ∀ b ∈ item, Fits b) :
      Fits (list marker isTight items)
  | rule : Fits rule
  | html : Fits html

/-! ### The blocks that a line begins -/

namespace BlockStart

variable {start : BlockStart} {marker : Marker} {s : List Char} {cursor : Cursor} {length : Nat}
  {interrupts inParagraph mayBeLazy mayOpenItem : Bool}

def Fits : BlockStart → Prop
  | heading level _ | underline level => level < UInt64.size
  | item marker _ _ => marker.Fits
  | _ => True

theorem fits_heading (h : heading? s = some start) : start.Fits := by
  simp only [heading?] at h
  split at h
  · next hlevel =>
      obtain rfl := Option.some.inj h
      exact Nat.lt_of_le_of_lt hlevel.2.1 (by decide)
  · simp at h

theorem fits_fence (h : fence? cursor = some start) : start.Fits := by
  unfold fence? at h
  split at h
  · dsimp only at h
    split at h
    · obtain rfl := Option.some.inj h
      trivial
    · simp at h
  · simp at h

theorem fits_underline (h : underline? s = some start) : start.Fits := by
  unfold underline? at h
  split at h
  · split at h
    · split at h
      · obtain rfl := Option.some.inj h
        exact (by decide : 1 < UInt64.size)
      · split at h
        · obtain rfl := Option.some.inj h
          exact (by decide : 2 < UInt64.size)
        · simp at h
    · simp at h
  · simp at h

theorem fits_marker (h : marker? interrupts s = some (marker, length)) : marker.Fits := by
  simp only [marker?] at h
  split at h
  · simp at h
  · next marker' length' rest hfound =>
      have hmarker : marker'.Fits := by
        split at hfound
        · split at hfound
          · obtain ⟨rfl, -⟩ := Prod.mk.inj (Option.some.inj hfound)
            trivial
          · split at hfound
            · split at hfound
              · next hdigits =>
                  obtain ⟨rfl, -⟩ := Prod.mk.inj (Option.some.inj hfound)
                  exact ⟨Text.valueOf_ten_lt List.all_takeWhile hdigits.2.1, hdigits.2.2⟩
              · simp at hfound
            · simp at hfound
        · simp at hfound
      rw [Option.ite_none_right_eq_some] at h
      obtain ⟨rfl, -⟩ := Prod.mk.inj (Option.some.inj h.2)
      exact hmarker

theorem fits_item (h : item? interrupts cursor = some start) : start.Fits := by
  unfold item? at h
  split at h
  · simp at h
  · next marker length hmarker =>
      dsimp only at h
      split at h <;> obtain rfl := Option.some.inj h <;> exact fits_marker hmarker

theorem fits_find? (h : find? inParagraph mayBeLazy mayOpenItem cursor = some start) :
    start.Fits := by
  simp only [find?] at h
  split at h
  · split at h
    · simp at h
    · obtain rfl := Option.some.inj h
      trivial
  · split at h
    · obtain rfl := Option.some.inj h
      trivial
    · simp only [Option.or_eq_some_iff] at h
      obtain h | ⟨-, h | ⟨-, h | ⟨-, h | ⟨-, h⟩⟩⟩⟩ := h
      · exact fits_heading h
      · exact fits_fence h
      · obtain ⟨opening, -, rfl⟩ := Option.map_eq_some_iff.mp h
        trivial
      · exact fits_underline (Option.ite_none_right_eq_some.mp h).2
      · split at h
        · obtain rfl := Option.some.inj h
          trivial
        · exact fits_item (Option.ite_none_right_eq_some.mp h).2

end BlockStart

end DocBridge.Markdown

import Mathlib.Algebra.Group.Nat.Defs
import Mathlib.Tactic.SplitIfs

/-!
# The order of texts and of their bytes

Texts are ordered by their characters, and so are their bytes in UTF-8. The first byte of a
character tells how many follow it and is the greater the more there are; those that follow are the
digits of the character to the base 64, the first of which are in the first byte.
-/

namespace DocBridge.Text

/-- The bytes of a text in UTF-8. -/
def bytes (s : String) : List UInt8 := s.toUTF8.data.toList

namespace Utf8

/-- The lowest digits of a number to the base 64, each in a byte that goes on with a character. -/
def continuation : Nat → Nat → List UInt8
  | 0, _ => []
  | n + 1, v => UInt8.ofNat (v / 64 ^ n % 64 + 0x80) :: continuation n v

/-- How many bytes follow the first one of a character. -/
def following (v : Nat) : Nat :=
  if v ≤ 0x7f then 0 else if v ≤ 0x7ff then 1 else if v ≤ 0xffff then 2 else 3

/-- What a first byte begins with when a number of bytes follow it. -/
def mark : Nat → Nat
  | 0 => 0
  | 1 => 0xc0
  | 2 => 0xe0
  | _ => 0xf0

/-- The first byte of a character. -/
def first (v : Nat) : Nat := mark (following v) + v / 64 ^ following v

variable {n v w : Nat}

theorem ofNat_cons_lt {a b : Nat} (hab : a < b) (hb : b < 256) (l m : List UInt8) :
    UInt8.ofNat a :: l < UInt8.ofNat b :: m := by
  refine List.cons_lt_cons_iff.mpr (.inl ?_)
  rw [UInt8.lt_iff_toNat_lt, UInt8.toNat_ofNat', UInt8.toNat_ofNat']
  omega

theorem cons_lt_cons (a : UInt8) {l m : List UInt8} (h : l < m) : a :: l < a :: m :=
  List.cons_lt_cons_iff.mpr (.inr ⟨rfl, h⟩)

/-- The digits of a smaller number are smaller. -/
theorem continuation_append_lt (h : v % 64 ^ n < w % 64 ^ n) (l m : List UInt8) :
    continuation n v ++ l < continuation n w ++ m := by
  induction n with
  | zero => omega
  | succ n ih =>
      rw [Nat.mod_pow_succ, Nat.mod_pow_succ] at h
      rw [continuation, continuation, List.cons_append, List.cons_append]
      obtain hlt | heq | hgt := Nat.lt_trichotomy (v / 64 ^ n % 64) (w / 64 ^ n % 64)
      · exact ofNat_cons_lt (by omega) (by omega) _ _
      · rw [heq] at h ⊢
        exact cons_lt_cons _ (ih (by omega))
      · have hdigit : 64 ^ n * (w / 64 ^ n % 64 + 1) ≤ 64 ^ n * (v / 64 ^ n % 64) :=
          Nat.mul_le_mul_left _ hgt
        have hrest : w % 64 ^ n < 64 ^ n := Nat.mod_lt _ (Nat.pow_pos (by decide))
        rw [Nat.mul_add_one] at hdigit
        omega

theorem utf8EncodeChar_eq {c : Char} (hv : c.val.toNat = v) :
    String.utf8EncodeChar c = UInt8.ofNat (first v) :: continuation (following v) v := by
  have hbound : v < 0x110000 := by
    rcases c.valid with h | h <;> omega
  simp only [String.utf8EncodeChar, first, following, hv]
  split_ifs <;>
    simp only [continuation, mark, List.cons.injEq, and_true, Nat.reducePow, Nat.div_one]
  all_goals exact congrArg UInt8.ofNat (by omega)

theorem following_le (h : v ≤ w) : following v ≤ following w := by
  simp only [following]
  split_ifs <;> omega

theorem first_lt_of_following_lt (h : following v < following w) (hw : w < 0x110000) :
    first v < first w := by
  simp only [first, following] at h ⊢
  split_ifs at h ⊢ <;> simp only [mark] <;> omega

theorem first_lt (hw : w < 0x110000) : first w < 256 := by
  simp only [first, following]
  split_ifs <;> simp only [mark] <;> omega

theorem first_cons_lt (h : v < w) (hw : w < 0x110000) (l m : List UInt8) :
    UInt8.ofNat (first v) :: (continuation (following v) v ++ l) <
      UInt8.ofNat (first w) :: (continuation (following w) w ++ m) := by
  obtain hlt | heq := Nat.lt_or_eq_of_le (following_le (Nat.le_of_lt h))
  · exact ofNat_cons_lt (first_lt_of_following_lt hlt hw) (first_lt hw) _ _
  · have hwhole : v / 64 ^ following w ≤ w / 64 ^ following w :=
      Nat.div_le_div_right (Nat.le_of_lt h)
    rw [first, first, heq]
    obtain hlt | hsame := Nat.lt_or_eq_of_le hwhole
    · exact ofNat_cons_lt (Nat.add_lt_add_left hlt _) (first_lt hw) _ _
    · rw [hsame]
      refine cons_lt_cons _ (continuation_append_lt ?_ l m)
      have hv := Nat.div_add_mod v (64 ^ following w)
      have hw := Nat.div_add_mod w (64 ^ following w)
      rw [hsame] at hv
      omega

/-- A smaller character has smaller bytes, whatever follows. -/
theorem utf8EncodeChar_append_lt {c d : Char} (h : c < d) (l m : List UInt8) :
    String.utf8EncodeChar c ++ l < String.utf8EncodeChar d ++ m := by
  have hd : d.val.toNat < 0x110000 := by
    rcases d.valid with hd | hd <;> omega
  rw [utf8EncodeChar_eq rfl, utf8EncodeChar_eq rfl]
  exact first_cons_lt h hd l m

theorem flatMap_utf8EncodeChar_lt {s t : List Char} (h : s < t) :
    s.flatMap String.utf8EncodeChar < t.flatMap String.utf8EncodeChar := by
  induction h with
  | nil =>
      rw [List.flatMap_nil, List.flatMap_cons]
      obtain ⟨b, more, hb⟩ := List.exists_cons_of_ne_nil (String.utf8EncodeChar_ne_nil (c := _))
      rw [hb]
      exact .nil
  | rel hcd =>
      rw [List.flatMap_cons, List.flatMap_cons]
      exact utf8EncodeChar_append_lt hcd _ _
  | cons _ ih =>
      rw [List.flatMap_cons, List.flatMap_cons]
      exact List.append_left_lt ih

end Utf8

theorem bytes_eq_flatMap (s : String) : bytes s = s.toList.flatMap String.utf8EncodeChar := by
  rw [bytes, String.toUTF8_eq_toByteArray, ← String.ofList_toList (s := s),
    String.toByteArray_ofList]
  simp [List.utf8Encode]

/-- Of two texts the smaller one has the smaller bytes. -/
theorem bytes_lt_bytes {s t : String} (h : s < t) : bytes s < bytes t := by
  rw [bytes_eq_flatMap, bytes_eq_flatMap]
  exact Utf8.flatMap_utf8EncodeChar_lt h

end DocBridge.Text

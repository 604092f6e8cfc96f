import DocBridge.Json.Printer
import DocBridge.Json.Reader
import Mathlib.Data.List.Basic
import Mathlib.Data.List.TakeDrop
import Mathlib.Data.Option.Basic

/-!
# Scalars that are read back

A string is read back from its quoted form, whatever its characters are, and an integer of 64 bits
from its digits, if what comes next cannot belong to a number. Doubles are left out: their digits
are gathered into a significand that may round.
-/

namespace DocBridge.Json

/-- A number that comes before this ends there. -/
def EndsNumber (rest : List Char) : Prop :=
  ∀ c, rest.head? = some c → c.isDigit = false ∧ c ≠ '.' ∧ c ≠ 'e' ∧ c ≠ 'E'

/-- An integer of 64 bits, with a sign or without. -/
def Number.Fits : Number → Prop
  | integer n => -0x8000000000000000 ≤ n ∧ n < UInt64.size
  | real _ => False

/-! ### Digits -/

theorem ne_of_isDigit {c d : Char} (hc : c.isDigit = true) (hd : d.isDigit = false) : c ≠ d := by
  rintro rfl
  rw [hc] at hd
  cases hd

theorem isDigit_toDigits (n : Nat) : ∀ c ∈ Nat.toDigits 10 n, c.isDigit = true :=
  fun _ hc => Nat.isDigit_of_mem_toDigits (by decide) (by decide) hc

theorem valueOf_toDigits (n : Nat) : Text.valueOf 10 (Nat.toDigits 10 n) = n := by
  have hdigits : ∀ m, ∀ c ∈ Nat.toDigits 10 n,
      m * 10 + Text.digitValue c = 10 * m + (c.toNat - '0'.toNat) := by
    intro m c hc
    rw [Text.digitValue, if_pos (isDigit_toDigits n c hc), Nat.mul_comm]
  rw [Text.valueOf, List.foldl_ext _ _ 0 hdigits, ← Nat.ofDigitChars_eq_foldl]
  exact Nat.ofDigitChars_ten_toDigits

theorem exists_toDigits_eq_cons (n : Nat) :
    ∃ c digits, Nat.toDigits 10 n = c :: digits ∧ c.isDigit = true := by
  obtain ⟨c, digits, heq⟩ := List.exists_cons_of_ne_nil (Nat.toDigits_ne_nil (n := n) (b := 10))
  exact ⟨c, digits, heq, isDigit_toDigits n c (heq ▸ List.mem_cons_self)⟩

/-- The text of an integer starts with its sign or a digit. -/
theorem exists_number_eq_cons {number : Number} (h : number.Fits) :
    ∃ c digits, (Printer.number number).toList = c :: digits ∧ (c = '-' ∨ c.isDigit = true) := by
  cases number with
  | real x => exact h.elim
  | integer n =>
      rw [Printer.number, Int.toString_eq_repr, Int.repr_eq_if]
      split
      · rw [Nat.repr_eq_ofList_toDigits, String.toList_ofList]
        obtain ⟨c, digits, hdigits, hc⟩ := exists_toDigits_eq_cons n.toNat
        exact ⟨c, digits, hdigits, .inr hc⟩
      · have hminus : "-".toList = ['-'] := by decide
        rw [String.toList_append, hminus, List.singleton_append]
        exact ⟨'-', _, rfl, .inl rfl⟩

theorem head?_toDigits_ne {n : Nat} (h : 0 < n) : (Nat.toDigits 10 n).head? ≠ some '0' := by
  induction n using Nat.strongRecOn with
  | _ n ih =>
      rw [Nat.toDigits_eq_if (by decide)]
      split
      · intro hzero
        have hdigit : n.digitChar = '0' := by simpa using hzero
        rw [Nat.digitChar_eq_zero] at hdigit
        omega
      · rw [List.head?_append_of_ne_nil _ Nat.toDigits_ne_nil]
        exact ih (n / 10) (by omega) (by omega)

theorem span_digits {digits rest : List Char} (h : ∀ c ∈ digits, c.isDigit = true)
    (hrest : EndsNumber rest) : (digits ++ rest).span Char.isDigit = (digits, rest) := by
  rw [List.span_eq_takeWhile_dropWhile, List.takeWhile_append_of_pos h,
    List.dropWhile_append_of_pos h]
  cases rest with
  | nil => simp
  | cons c rest =>
      have hc := (hrest c rfl).1
      simp [hc]

namespace Numeral

theorem le_foldl_digits (digits : List Char) (significand : Nat) :
    significand ≤ digits.foldl (fun n d => n * 10 + Text.digitValue d) significand := by
  induction digits generalizing significand with
  | nil => exact Nat.le_refl _
  | cons d rest ih =>
      have hnext := ih (significand * 10 + Text.digitValue d)
      rw [List.foldl_cons]
      omega

/-- Digits are gathered without a rest while they fit. -/
theorem gather_eq {digits : List Char} {significand : Nat}
    (h : digits.foldl (fun n d => n * 10 + Text.digitValue d) significand < UInt64.size) :
    gather significand digits =
      (digits.foldl (fun n d => n * 10 + Text.digitValue d) significand, []) := by
  induction digits generalizing significand with
  | nil => rfl
  | cons d rest ih =>
      rw [List.foldl_cons] at h ⊢
      have hnext := Nat.lt_of_le_of_lt (le_foldl_digits rest _) h
      simp only [gather, if_pos hnext]
      exact ih h

variable {rest : List Char}

theorem fraction?_of_endsNumber (h : EndsNumber rest) : fraction? rest = some ([], rest) := by
  unfold fraction?
  split
  · exact absurd rfl (h '.' rfl).2.1
  · rfl

theorem exponent?_of_endsNumber (h : EndsNumber rest) : exponent? rest = some (none, rest) := by
  cases rest with
  | nil => rfl
  | cons c rest =>
      obtain ⟨-, -, he, hE⟩ := h c rfl
      rw [exponent?.eq_def]
      simp only [he, hE, or_self, if_false]

theorem read?_of_ne {c : Char} (h : c ≠ '-') :
    read? (c :: rest) = unsigned? false (c :: rest) := by
  unfold read?
  split
  · next heq => exact absurd (List.cons.inj heq).1 h
  · rfl

theorem unsigned?_toDigits (negative : Bool) {n : Nat} (hn : n < UInt64.size)
    (hnegative : negative = true → 0 < n ∧ n ≤ 0x8000000000000000) (hrest : EndsNumber rest) :
    unsigned? negative (Nat.toDigits 10 n ++ rest) =
      some (.integer (if negative then -n else n), rest) := by
  have hspan := span_digits (isDigit_toDigits n) hrest
  have hwhole : Nat.toDigits 10 n = ['0'] ∨
      Nat.toDigits 10 n ≠ [] ∧ (Nat.toDigits 10 n).head? ≠ some '0' := by
    rcases Nat.eq_zero_or_pos n with rfl | hpos
    · exact .inl rfl
    · exact .inr ⟨Nat.toDigits_ne_nil, head?_toDigits_ne hpos⟩
  have hgather : gather 0 (Nat.toDigits 10 n) = (n, []) := by
    have hvalue := valueOf_toDigits n
    rw [Text.valueOf] at hvalue
    rw [gather_eq (by rwa [hvalue]), hvalue]
  have hsign : if negative then 0 < n ∧ n ≤ 0x8000000000000000 else True := by
    cases negative with
    | true => exact hnegative rfl
    | false => trivial
  rw [unsigned?, hspan]
  simp only [hgather, fraction?_of_endsNumber hrest, exponent?_of_endsNumber hrest,
    Option.bind_eq_bind, Option.bind_some, and_self, true_and, hsign, if_true]
  rw [guard, if_pos hwhole]
  rfl

/-- The text of an integer is read back up to what ends it. -/
theorem read?_number {number : Number} (h : number.Fits) (hrest : EndsNumber rest) :
    read? ((Printer.number number).toList ++ rest) = some (number, rest) := by
  cases number with
  | real x => exact h.elim
  | integer n =>
      obtain ⟨hlow, hhigh⟩ := h
      have hsize : UInt64.size = 18446744073709551616 := rfl
      rw [Printer.number, Int.toString_eq_repr, Int.repr_eq_if]
      by_cases hsign : 0 ≤ n
      · have hread := unsigned?_toDigits false (n := n.toNat) (by omega) nofun hrest
        obtain ⟨c, digits, hdigits, hc⟩ := exists_toDigits_eq_cons n.toNat
        have hminus : c ≠ '-' := ne_of_isDigit hc (by decide)
        rw [hdigits] at hread
        rw [if_pos hsign, Nat.repr_eq_ofList_toDigits, String.toList_ofList, hdigits,
          List.cons_append, read?_of_ne hminus, ← List.cons_append, hread]
        simp only [Bool.false_eq_true, if_false, Option.some.injEq, Prod.mk.injEq,
          Number.integer.injEq, and_true]
        omega
      · have hread := unsigned?_toDigits true (n := (-n).toNat) (by omega)
          (fun _ => by omega) hrest
        have hminus : "-".toList = ['-'] := by decide
        rw [if_neg hsign, Nat.repr_eq_ofList_toDigits, String.toList_append, hminus,
          String.toList_ofList]
        change unsigned? true (Nat.toDigits 10 (-n).toNat ++ rest) = _
        rw [hread]
        simp only [if_true, Option.some.injEq, Prod.mk.injEq, Number.integer.injEq, and_true]
        omega

end Numeral

/-! ### Strings -/

namespace Reader

theorem hexCode?_of_control : ∀ n < 0x20,
    hexCode? '0' '0' (Printer.hexDigit (n / 16)) (Printer.hexDigit (n % 16)) = some n := by
  decide

/-- A character is read back from its escaped form. -/
theorem stringBody_escape (c : Char) (rest : List Char) :
    stringBody none (Printer.escape c ++ rest) =
      (stringBody none rest).map fun (s, left) => (c :: s, left) := by
  unfold Printer.escape
  split
  case h_8 hquote hslash _ _ _ _ _ =>
    split
    · next hcontrol =>
        have hhigh : isHighSurrogate c.toNat = false := by
          simp [isHighSurrogate]
          omega
        have hlow : isLowSurrogate c.toNat = false := by
          simp [isLowSurrogate]
          omega
        simp only [List.cons_append, List.nil_append]
        rw [stringBody.eq_def]
        simp only [hexCode?_of_control _ hcontrol, hhigh, hlow, Bool.false_eq_true, if_false,
          Char.ofNat_toNat]
    · next hcontrol =>
        rw [List.singleton_append, stringBody]
        · have hplain : ¬((none : Option Nat).isSome = true ∨ c.toNat < 0x20 ∨ c = '\\') := by
            rintro (h | h | h)
            · simp at h
            · exact hcontrol h
            · exact hslash h
          rw [if_neg hplain]
        · exact fun _ _ _ _ _ heq _ => hslash heq
        · exact fun _ _ heq _ => hslash heq
        · exact hquote
  all_goals
    simp [stringBody, simpleEscape?]

theorem stringBody_quoted (s rest : List Char) :
    stringBody none (s.flatMap Printer.escape ++ '"' :: rest) = some (s, rest) := by
  induction s with
  | nil => simp [stringBody]
  | cons c s ih =>
      rw [List.flatMap_cons, List.append_assoc, stringBody_escape, ih]
      rfl

theorem toList_quote (s : String) :
    (Printer.quote s).toList = '"' :: (s.toList.flatMap Printer.escape ++ ['"']) := by
  simp [Printer.quote]

/-- A string is read back from its quoted form. -/
theorem string?_quote (s : String) (rest : List Char) :
    string? ((Printer.quote s).toList ++ rest) = some (s, rest) := by
  rw [toList_quote, List.cons_append, List.append_assoc, string?, List.singleton_append,
    stringBody_quoted, Option.map_some]
  simp only [String.ofList_toList]

end Reader

end DocBridge.Json

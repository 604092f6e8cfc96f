import DocBridge.Markdown.Verbatim
import DocBridge.Proofs.Markdown.Enclosing
import Mathlib.Data.List.TakeWhile

/-!
# Code between backticks

A text is made of runs of a character and of other characters, so what the search for a closing run
finds is known from what it does before another character and before a run. Code is written with one
backtick on each side or, where it has backticks itself, with two and a space. The span is read as
this code unless the code has a run of just two backticks, which then closes it, or has no backticks
and spaces at both ends, which are then taken for padding.
-/

namespace DocBridge.Markdown

namespace Verbatim

variable {c d : Char} {n : Nat} {s t : List Char}

/-! ### Runs -/

theorem left_le_of_mem_runs : ∀ run ∈ runs c s, run.2 ≤ s.length := by
  induction s with
  | nil => simp [runs]
  | cons d s ih =>
      have hrest : ∀ run ∈ runs c s, run.2 ≤ (d :: s).length :=
        fun run hrun => Nat.le_succ_of_le (ih run hrun)
      rw [runs]
      split
      · exact hrest
      · cases hruns : runs c s with
        | nil => simp
        | cons first others =>
            rw [hruns] at ih hrest
            have hfirst : first.2 + 1 ≤ (d :: s).length := Nat.succ_le_succ (ih first (by simp))
            dsimp only
            split
            · exact List.forall_mem_cons.mpr ⟨hfirst, (List.forall_mem_cons.mp hrest).2⟩
            · exact List.forall_mem_cons.mpr ⟨Nat.le_refl _, hrest⟩

theorem runs_cons_of_ne (h : d ≠ c) : runs c (d :: s) = runs c s := by rw [runs, if_pos h]

theorem runs_cons_self (h : s.head? ≠ some c) :
    runs c (c :: s) = (1, s.length + 1) :: runs c s := by
  have hleft : ∀ run ∈ runs c s, run.2 ≠ s.length := by
    cases s with
    | nil => simp [runs]
    | cons d s =>
        have hne : d ≠ c := by simpa using h
        rw [runs_cons_of_ne hne]
        intro run hrun
        exact Nat.ne_of_lt (Nat.lt_succ_of_le (left_le_of_mem_runs run hrun))
  rw [runs, if_neg (by simp)]
  cases hruns : runs c s with
  | nil => rfl
  | cons first others =>
      have hne : first.2 ≠ s.length := hleft first (by simp [hruns])
      dsimp only
      rw [if_neg hne]

theorem runs_replicate_append (h : s.head? ≠ some c) (n : Nat) :
    runs c (List.replicate (n + 1) c ++ s) = (n + 1, n + 1 + s.length) :: runs c s := by
  induction n with
  | zero => rw [List.replicate_one, List.singleton_append, runs_cons_self h, Nat.add_comm]
  | succ n ih =>
      rw [List.replicate_succ, List.cons_append, runs, if_neg (by simp), ih]
      simp [Nat.add_right_comm]

/-- A text is empty, or begins with another character or with all of a run. -/
@[elab_as_elim]
theorem run_induction {motive : List Char → Prop} (nil : motive [])
    (other : ∀ d s, d ≠ c → motive s → motive (d :: s))
    (run : ∀ n s, s.head? ≠ some c → motive s → motive (List.replicate (n + 1) c ++ s))
    (s : List Char) : motive s := by
  induction hlength : s.length using Nat.strongRecOn generalizing s with
  | ind length ih =>
      subst hlength
      cases s with
      | nil => exact nil
      | cons d s =>
          by_cases hd : d = c
          · subst hd
            let others := s.dropWhile (· == d)
            have hrun : s.takeWhile (· == d) = List.replicate (s.takeWhile (· == d)).length d :=
              List.eq_replicate_of_mem fun e he => by simpa using List.mem_takeWhile_imp he
            have hsplit : List.replicate ((s.takeWhile (· == d)).length + 1) d ++ others =
                d :: s := by
              rw [List.replicate_succ, ← hrun, List.cons_append, List.takeWhile_append_dropWhile]
            have hothers : others.head? ≠ some d := by
              intro hhead
              have hnot := List.head?_dropWhile_not (· == d) s
              rw [hhead] at hnot
              simp at hnot
            have hshort : others.length < (d :: s).length :=
              Nat.lt_succ_of_le (List.dropWhile_suffix _).length_le
            rw [← hsplit]
            exact run _ others hothers (ih _ hshort others rfl)
          · exact other d s hd (ih _ (Nat.lt_succ_self _) s rfl)

/-! ### Closing runs -/

theorem closingRun?_append_of_find? {p : List Char}
    (h : (runs c (p ++ s)).find? (·.1 == n) = (runs c s).find? (·.1 == n)) :
    closingRun? c n (p ++ s) = (closingRun? c n s).map (Prod.map (p ++ ·) id) := by
  rw [closingRun?, closingRun?, h, Option.map_map]
  cases hfound : (runs c s).find? (·.1 == n) with
  | none => rfl
  | some run =>
      have hleft := left_le_of_mem_runs run (List.mem_of_find?_eq_some hfound)
      have hlength : (p ++ s).length - run.2 = p.length + (s.length - run.2) := by
        rw [List.length_append, Nat.add_sub_assoc hleft]
      simp only [Option.map_some, Function.comp_apply, Prod.map_apply, id_eq]
      rw [hlength, List.take_length_add_append, Nat.add_assoc, List.drop_length_add_append]

theorem closingRun?_nil : closingRun? c n [] = none := rfl

theorem closingRun?_cons_of_ne (h : d ≠ c) :
    closingRun? c n (d :: s) = (closingRun? c n s).map (Prod.map ([d] ++ ·) id) :=
  closingRun?_append_of_find? (p := [d]) (by rw [List.singleton_append, runs_cons_of_ne h])

/-- A run closes exactly if it has the length that is asked for. -/
theorem closingRun?_replicate_append (h : s.head? ≠ some c) (m n : Nat) :
    closingRun? c n (List.replicate (m + 1) c ++ s) =
      if m + 1 = n then some ([], s)
      else (closingRun? c n s).map (Prod.map (List.replicate (m + 1) c ++ ·) id) := by
  have hruns := runs_replicate_append h m
  split
  · next hlength =>
      rw [closingRun?, hruns, ← hlength, List.find?_cons_of_pos (by simp)]
      simp
  · next hlength =>
      apply closingRun?_append_of_find?
      rw [hruns, List.find?_cons_of_neg (by simpa using hlength)]

/-- A text goes on behind one without a closing run, unless a run reaches over its end. -/
theorem closingRun?_append (h : s.getLast? = some c → t.head? ≠ some c) :
    closingRun? c n (s ++ t) = match closingRun? c n s with
      | some (before, after) => some (before, after ++ t)
      | none => (closingRun? c n t).map (Prod.map (s ++ ·) id) := by
  induction s using run_induction (c := c) with
  | nil =>
      rw [closingRun?_nil]
      exact Option.map_id'.symm
  | other d s hd ih =>
      have hs : s.getLast? = some c → t.head? ≠ some c := by
        intro hlast
        refine h ?_
        rw [List.getLast?_cons, hlast]
        rfl
      rw [List.cons_append, closingRun?_cons_of_ne hd, closingRun?_cons_of_ne hd, ih hs]
      cases closingRun? c n s with
      | none => cases closingRun? c n t <;> rfl
      | some found => rfl
  | run m s hhead ih =>
      have hs : s.getLast? = some c → t.head? ≠ some c := by
        intro hlast
        refine h ?_
        rw [List.getLast?_append, hlast]
        rfl
      have hboth : (s ++ t).head? ≠ some c := by
        cases s with
        | nil => exact h (by simp [List.getLast?_replicate])
        | cons d s => exact hhead
      rw [List.append_assoc, closingRun?_replicate_append hboth,
        closingRun?_replicate_append hhead, ih hs]
      split
      · rfl
      · cases closingRun? c n s with
        | none => cases closingRun? c n t <;> simp [Prod.map]
        | some found => rfl

/-- In a text there is a run of exactly so many of a character. -/
def HasRun (c : Char) (n : Nat) (s : List Char) : Prop :=
  ∃ before after, s = before ++ List.replicate n c ++ after ∧
    before.getLast? ≠ some c ∧ after.head? ≠ some c

/-- The search for a closing run succeeds exactly if there is one. -/
theorem isSome_closingRun?_iff :
    (closingRun? c (n + 1) s).isSome ↔ HasRun c (n + 1) s := by
  constructor
  · induction s using run_induction (c := c) with
    | nil => simp [closingRun?_nil]
    | other d s hd ih =>
        rw [closingRun?_cons_of_ne hd, Option.isSome_map]
        intro hfound
        obtain ⟨before, after, rfl, hbefore, hafter⟩ := ih hfound
        refine ⟨d :: before, after, rfl, ?_, hafter⟩
        cases before with
        | nil => simpa using hd
        | cons e before => simpa using hbefore
    | run m s hhead ih =>
        rw [closingRun?_replicate_append hhead]
        split
        · next hlength =>
            intro _
            exact ⟨[], s, by rw [hlength, List.nil_append], by simp, hhead⟩
        · rw [Option.isSome_map]
          intro hfound
          obtain ⟨before, after, rfl, hbefore, hafter⟩ := ih hfound
          refine ⟨List.replicate (m + 1) c ++ before, after, by simp, ?_, hafter⟩
          -- The run that was found is not at the front, where another run ends.
          cases before with
          | nil => simp [List.replicate_succ] at hhead
          | cons e before => simpa [List.getLast?_append] using hbefore
  · rintro ⟨before, after, rfl, hbefore, hafter⟩
    rw [List.append_assoc, closingRun?_append (fun hlast => absurd hlast hbefore),
      closingRun?_replicate_append hafter, if_pos rfl]
    cases closingRun? c (n + 1) before <;> rfl

theorem mem_of_hasRun (h : HasRun c (n + 1) s) : c ∈ s := by
  obtain ⟨before, after, rfl, -⟩ := h
  simp

instance : Decidable (HasRun c (n + 1) s) := decidable_of_iff _ isSome_closingRun?_iff

/-! ### Padding -/

/-- A space stands at both ends of a text, and something else between them. -/
def IsPadded (s : List Char) : Prop :=
  s.head? = some ' ' ∧ s.getLast? = some ' ' ∧ ∃ e ∈ s, e ≠ ' '

instance (s : List Char) : Decidable (IsPadded s) :=
  inferInstanceAs (Decidable (_ ∧ _ ∧ ∃ e ∈ s, e ≠ ' '))

theorem normalize_eq (hfeed : '\n' ∉ s) :
    normalize s = if IsPadded s then (s.drop 1).dropLast else s := by
  have hmap : (s.map fun e => if e = '\n' then ' ' else e) = s := by
    refine (List.map_congr_left fun e he => if_neg ?_).trans (List.map_id s)
    rintro rfl
    exact hfeed he
  rw [normalize, hmap]
  simp [IsPadded]

/-- A space on each side of a text that is not all spaces is padding. -/
theorem normalize_padded (hfeed : '\n' ∉ s) (hother : ∃ e ∈ s, e ≠ ' ') :
    normalize ([' '] ++ s ++ [' ']) = s := by
  obtain ⟨e, he, hspace⟩ := hother
  have hpadded : IsPadded ([' '] ++ s ++ [' ']) :=
    ⟨rfl, List.getLast?_concat, e, by simp [he], hspace⟩
  rw [normalize_eq (by simp [hfeed]), if_pos hpadded]
  simp

theorem normalize_eq_self_iff (hfeed : '\n' ∉ s) : normalize s = s ↔ ¬ IsPadded s := by
  rw [normalize_eq hfeed]
  split
  · next hpadded =>
      -- A padded text is not empty, and without its padding it is shorter.
      refine iff_of_false (fun heq => ?_) (not_not_intro hpadded)
      have hlength := congrArg List.length heq
      cases s with
      | nil => cases hpadded.1
      | cons e s =>
          rw [List.drop_one, List.tail_cons, List.length_dropLast, List.length_cons] at hlength
          omega
  · next hpadded => simp [hpadded]

end Verbatim

/-! ### Spans of code -/

open Verbatim Writer

variable {s : List Char} {code : String}

/-- The code that a text begins with, if it begins with a run of backticks that is closed, and what
follows the code. -/
def codeAt? (s : List Char) : Option (Inline × List Char) :=
  let run := s.takeWhile (· == '`')
  (Backticks.empty.code? run.length (s.drop run.length)).1

theorem codeAt?_replicate_append {n : Nat} (hn : n ≤ longestFence) (hs : s.head? ≠ some '`') :
    codeAt? (List.replicate n '`' ++ s) = (closingRun? '`' n s).map fun (content, rest) =>
      (.code (String.ofList (normalize content)), rest) := by
  have hrest : s.takeWhile (· == '`') = [] := by
    cases s with
    | nil => rfl
    | cons c s => exact List.takeWhile_cons_of_neg (by simpa using hs)
  have hrun : (List.replicate n '`' ++ s).takeWhile (· == '`') = List.replicate n '`' := by
    rw [List.takeWhile_append_of_pos (by simp), hrest, List.append_nil]
  rw [codeAt?, hrun, List.length_replicate, List.drop_left' (by simp), Backticks.code?,
    if_pos (by simp [Backticks.mayOpen, Backticks.empty, hn])]

/-- Code with backticks is closed by the first run of two in it, or by the run behind it. -/
theorem codeAt?_codeSpan_of_mem (hfeed : '\n' ∉ code.toList) (h : '`' ∈ code.toList) :
    codeAt? (codeSpan code).toList = match closingRun? '`' 2 code.toList with
      | some (before, after) =>
        some (.code (String.ofList (normalize ([' '] ++ before))), after ++ " ``".toList)
      | none => some (.code code, []) := by
  have htext : (codeSpan code).toList =
      List.replicate 2 '`' ++ ([' '] ++ (code.toList ++ " ``".toList)) := by
    rw [codeSpan, if_pos (by simpa using h)]
    simp
  have hbehind : closingRun? '`' 2 " ``".toList = some ([' '], []) := by decide
  have hother : ∃ c ∈ code.toList, c ≠ ' ' := ⟨'`', h, by decide⟩
  have hkept := normalize_padded hfeed hother
  rw [htext, codeAt?_replicate_append (by decide) (by simp), List.singleton_append,
    closingRun?_cons_of_ne (by decide), closingRun?_append (fun _ => by decide), hbehind]
  cases closingRun? '`' 2 code.toList with
  | none => simpa using congrArg String.ofList hkept
  | some found => rfl

/-- Code without backticks is closed behind it, and loses a space at both ends. -/
theorem codeAt?_codeSpan_of_notMem (hne : code ≠ "") (h : '`' ∉ code.toList) :
    codeAt? (codeSpan code).toList = some (.code (String.ofList (normalize code.toList)), []) := by
  have htext : (codeSpan code).toList = List.replicate 1 '`' ++ (code.toList ++ ['`']) := by
    rw [codeSpan, if_neg (by simpa using h)]
    simp
  have hhead : (code.toList ++ ['`']).head? ≠ some '`' := by
    have hchars : code.toList ≠ [] := by simpa using hne
    obtain ⟨c, rest, hcode⟩ := List.exists_cons_of_ne_nil hchars
    have hc : c ≠ '`' := by
      rintro rfl
      exact h (by rw [hcode]; exact List.mem_cons_self)
    rw [hcode]
    simpa using hc
  have hnone : closingRun? '`' 1 code.toList = none := by
    rw [← Option.not_isSome_iff_eq_none, isSome_closingRun?_iff]
    exact h ∘ mem_of_hasRun
  have hend : code.toList.getLast? ≠ some '`' := fun hlast => h (List.mem_of_getLast? hlast)
  have hclosing : closingRun? '`' 1 ['`'] = some ([], []) := by decide
  rw [htext, codeAt?_replicate_append (by decide) hhead,
    closingRun?_append (fun hlast => absurd hlast hend), hnone, hclosing]
  simp

/-- Code is read back from its span as it is: no run of backticks in it is as long as the run around
code with backticks, and code without backticks is not padded like code that has them. -/
structure SpansItself (code : String) : Prop where
  not_closed : ¬ HasRun '`' 2 code.toList
  not_padded : '`' ∉ code.toList → ¬ IsPadded code.toList

theorem codeAt?_codeSpan_iff (hne : code ≠ "") (hfeed : '\n' ∉ code.toList) :
    codeAt? (codeSpan code).toList = some (.code code, []) ↔ SpansItself code := by
  by_cases h : '`' ∈ code.toList
  · have hspans : SpansItself code ↔ ¬ HasRun '`' 2 code.toList :=
      ⟨(·.not_closed), fun hclosed => ⟨hclosed, fun hnone => absurd h hnone⟩⟩
    rw [hspans, codeAt?_codeSpan_of_mem hfeed h, ← isSome_closingRun?_iff]
    cases closingRun? '`' 2 code.toList with
    | none => simp
    | some found => simp
  · have hspans : SpansItself code ↔ ¬ IsPadded code.toList := by
      refine ⟨fun hspans => hspans.not_padded h, fun hpadded => ⟨?_, fun _ => hpadded⟩⟩
      exact h ∘ mem_of_hasRun
    rw [hspans, codeAt?_codeSpan_of_notMem hne h, ← normalize_eq_self_iff hfeed]
    simp [String.ext_iff]

end DocBridge.Markdown

import DocBridge.Pandoc.Export
import DocBridge.Proofs.Pandoc.Pieces
import Mathlib.Data.List.SplitBy

/-!
# Text as runs

A text falls in one way into maximal runs of separators and of other characters, and it is written
as one inline for each run, behind whatever has been written before it.

The pieces of a text are found from its end. They can also be found from its beginning, in one pass
that keeps the word it is in and the separator it has not written yet. What such a scan holds back
is a text of its own, and together with the text ahead of it that text has the pieces that are still
to be written: one more character does not change them, and at the end of the text they are what the
scan holds.
-/

namespace DocBridge.Pandoc

open Json (Value)

/-! ### Maximal runs -/

/-- The runs into which a text falls: separators only or none at all, and neighbours differ. -/
structure MaximalRuns (text : List Char) (runs : List (List Char)) : Prop where
  flatten_eq : runs.flatten = text
  ne_nil : ∀ run ∈ runs, run ≠ []
  alike : ∀ run ∈ runs, ∀ c ∈ run, ∀ d ∈ run, Piece.isSeparator c = Piece.isSeparator d
  turns : runs.IsChain fun run next =>
    ∀ c ∈ run, ∀ d ∈ next, Piece.isSeparator c ≠ Piece.isSeparator d

theorem maximalRuns_iff {text : List Char} {runs : List (List Char)} : MaximalRuns text runs ↔
    text.splitBy (fun c d => Piece.isSeparator c == Piece.isSeparator d) = runs := by
  have htrans : IsTrans Char fun c d => (Piece.isSeparator c == Piece.isSeparator d) = true :=
    ⟨fun _ _ _ hcd hde => by simp_all⟩
  have hsymm : Std.Symm fun c d => (Piece.isSeparator c == Piece.isSeparator d) = true :=
    ⟨fun _ _ h => by simp_all⟩
  rw [List.splitBy_eq_iff]
  constructor
  · intro h
    refine ⟨h.flatten_eq.symm, fun hnil => h.ne_nil [] hnil rfl, fun run hrun => ?_, ?_⟩
    · refine (List.pairwise_of_forall_mem_list fun c hc d hd => ?_).isChain
      exact beq_iff_eq.mpr (h.alike run hrun c hc d hd)
    · refine h.turns.imp_of_mem_imp fun run next hrun hnext hturn => ?_
      refine ⟨h.ne_nil run hrun, h.ne_nil next hnext, beq_eq_false_iff_ne.mpr ?_⟩
      exact hturn _ (List.getLast_mem _) _ (List.head_mem _)
  · rintro ⟨hflatten, hnil, hchain, hturns⟩
    have halike : ∀ run ∈ runs, ∀ c ∈ run, ∀ d ∈ run,
        Piece.isSeparator c = Piece.isSeparator d := by
      intro run hrun c hc d hd
      exact beq_iff_eq.mp ((hchain run hrun).pairwise.forall_of_forall (by simp) hc hd)
    refine ⟨hflatten.symm, fun run hrun h => hnil (h ▸ hrun), halike, ?_⟩
    refine hturns.imp_of_mem_imp fun run next hrun hnext hends c hc d hd => ?_
    obtain ⟨hrun', hnext', hends⟩ := hends
    rw [halike run hrun c hc _ (List.getLast_mem hrun'),
      halike next hnext d hd _ (List.head_mem hnext')]
    exact beq_eq_false_iff_ne.mp hends

theorem existsUnique_maximalRuns (text : List Char) : ∃! runs, MaximalRuns text runs :=
  ⟨_, maximalRuns_iff.mpr rfl, fun _ h => (maximalRuns_iff.mp h).symm⟩

namespace Piece

variable {c d : Char} {l run : List Char} {p : Piece} {pieces : List Piece}

/-- The piece that a run is written as. -/
def ofRun (run : List Char) : Piece :=
  if run.all isSeparator then if '\n' ∈ run then softBreak else space else word run

theorem all_isSeparator (hrun : ∀ c ∈ run, ∀ d ∈ run, isSeparator c = isSeparator d)
    (hc : c ∈ run) : run.all isSeparator = isSeparator c := by
  rw [Bool.eq_iff_iff, List.all_eq_true]
  constructor
  · intro h
    exact h c hc
  · intro h d hd
    rw [hrun d hd c hc, h]

/-- A run is written as a separator if its characters are separators. -/
theorem breaks_ofRun (hrun : ∀ c ∈ run, ∀ d ∈ run, isSeparator c = isSeparator d)
    (hc : c ∈ run) : (ofRun run).breaks = isSeparator c := by
  rw [← all_isSeparator hrun hc, ofRun]
  split
  · next h =>
      rw [h]
      split <;> rfl
  · next h => exact (Bool.eq_false_iff.mpr h).symm

/-! ### Separators in front of a text -/

theorem eq_of_isSeparator (hc : isSeparator c = true) : c = ' ' ∨ c = '\t' ∨ c = '\n' := by
  simpa [isSeparator, or_assoc] using hc

theorem extend_of_isSeparator (hc : isSeparator c = true)
    (hhead : ∀ q ∈ pieces.head?, q.breaks = false) : extend c pieces = separator c :: pieces := by
  cases pieces with
  | nil => simp [extend, hc]
  | cons q rest =>
      cases q with
      | word text => simp [extend, hc]
      | space => simp [breaks] at hhead
      | softBreak => simp [breaks] at hhead

theorem breaks_of_mem_head? (hp : p ∈ (ofText (c :: l)).head?) : p.breaks = isSeparator c := by
  have hhead := head?_ofText (c :: l)
  rw [Option.mem_def.mp hp] at hhead
  exact hhead

theorem extend_of_breaks (hc : isSeparator c = true) (hp : p.breaks = true) :
    extend c (p :: pieces) = (if p = softBreak then softBreak else separator c) :: pieces := by
  cases p with
  | word text => simp [breaks] at hp
  | space => simp [extend, hc]
  | softBreak => simp [extend, hc]

/-- Of two separators in a row only the first line feed or the second one counts. -/
theorem extend_extend (hc : isSeparator c = true) (hd : isSeparator d = true)
    (pieces : List Piece) :
    extend c (extend d pieces) = extend (if c = '\n' then c else d) pieces := by
  obtain rfl | rfl | rfl := eq_of_isSeparator hc <;>
    obtain rfl | rfl | rfl := eq_of_isSeparator hd <;>
    cases pieces with
    | nil => rfl
    | cons q rest => cases q <;> rfl

/-- A separator counts as what is written for it. -/
theorem ofText_written_separator (hc : isSeparator c = true) (l : List Char) :
    ofText ((separator c).written ++ l) = ofText (c :: l) := by
  have htab (pieces : List Piece) : extend ' ' pieces = extend '\t' pieces := by
    cases pieces with
    | nil => rfl
    | cons q rest => cases q <;> rfl
  obtain rfl | rfl | rfl := eq_of_isSeparator hc
  · rfl
  · exact htab (ofText l)
  · rfl

/-- What is written for a separator takes in the separator behind it. -/
theorem ofText_written_cons (hp : p.breaks = true) (hc : isSeparator c = true) (l : List Char) :
    ofText (p.written ++ c :: l) =
      ofText ((if p = softBreak then softBreak else separator c).written ++ l) := by
  cases p with
  | word text => simp [breaks] at hp
  | space =>
      rw [if_neg (by simp), ofText_written_separator hc]
      exact extend_extend rfl hc (ofText l)
  | softBreak => exact extend_extend rfl hc (ofText l)

theorem ofText_separators_append (hne : run ≠ []) (hrun : run.all isSeparator = true)
    (hhead : ∀ q ∈ (ofText l).head?, q.breaks = false) :
    ofText (run ++ l) = (if '\n' ∈ run then softBreak else space) :: ofText l := by
  induction run with
  | nil => exact absurd rfl hne
  | cons c run ih =>
      rw [List.all_cons, Bool.and_eq_true] at hrun
      obtain ⟨hc, hrest⟩ := hrun
      rw [List.cons_append, ofText_cons]
      by_cases hempty : run = []
      · subst hempty
        rw [List.nil_append, extend_of_isSeparator hc hhead]
        simp [separator, eq_comm]
      · rw [ih hempty hrest, extend_of_breaks hc (by split <;> rfl)]
        by_cases hnewline : '\n' ∈ run
        · simp [hnewline]
        · simp [hnewline, separator, eq_comm]

/-- A run in front of a text is a piece in front of its pieces. -/
theorem ofText_run_append (hne : run ≠ [])
    (hrun : ∀ c ∈ run, ∀ d ∈ run, isSeparator c = isSeparator d)
    (hturn : ∀ q ∈ (ofText l).head?, (ofRun run).breaks ≠ q.breaks) :
    ofText (run ++ l) = ofRun run :: ofText l := by
  obtain ⟨c, hc⟩ := List.exists_mem_of_ne_nil run hne
  have hall := all_isSeparator hrun hc
  rw [breaks_ofRun hrun hc] at hturn
  cases hsort : isSeparator c with
  | true =>
      rw [hsort] at hall hturn
      rw [ofRun, if_pos hall]
      exact ofText_separators_append hne hall fun q hq => by simpa using (hturn q hq).symm
  | false =>
      rw [hsort] at hall hturn
      rw [ofRun, if_neg (by simp [hall])]
      refine ofText_written_append (p := word run) ⟨hne, fun d hd => ?_⟩ (by simp) hturn
      rw [hrun d hd c hc, hsort]

end Piece

/-- The pieces of a text are those of its runs. -/
theorem MaximalRuns.ofText_eq {text : List Char} {runs : List (List Char)}
    (h : MaximalRuns text runs) : Piece.ofText text = runs.map Piece.ofRun := by
  induction runs generalizing text with
  | nil =>
      obtain rfl : [] = text := h.flatten_eq
      rfl
  | cons run runs ih =>
      obtain ⟨hturn, hturns⟩ := List.isChain_cons.mp h.turns
      obtain ⟨hne, hne'⟩ := List.forall_mem_cons.mp h.ne_nil
      obtain ⟨halike, halike'⟩ := List.forall_mem_cons.mp h.alike
      have hrest := ih ⟨rfl, hne', halike', hturns⟩
      rw [← h.flatten_eq, List.flatten_cons, List.map_cons, ← hrest]
      refine Piece.ofText_run_append hne halike fun q hq => ?_
      rw [hrest, List.head?_map, Option.mem_def, Option.map_eq_some_iff] at hq
      obtain ⟨next, hnext, rfl⟩ := hq
      have hmem := List.mem_of_mem_head? hnext
      obtain ⟨c, hc⟩ := List.exists_mem_of_ne_nil run hne
      obtain ⟨d, hd⟩ := List.exists_mem_of_ne_nil next (hne' next hmem)
      rw [Piece.breaks_ofRun halike hc, Piece.breaks_ofRun (halike' next hmem) hd]
      exact hturn next hnext c hc d hd

/-! ### One pass -/

/-- What a scan has written, the word it is in, and the separator it has not written yet. -/
structure Scan where
  written : List Value
  word : List Char
  pending : Option Piece

namespace Scan

def endWord (scan : Scan) : Scan :=
  if scan.word = [] then scan
  else { scan with written := scan.written ++ [pieceValue (.word scan.word)], word := [] }

def endPending (scan : Scan) : Scan :=
  match scan.pending with
  | some p => { scan with written := scan.written ++ [pieceValue p], pending := none }
  | none => scan

/-- Reads a character: a separator ends the word, and any other character the separators. -/
def next (scan : Scan) (c : Char) : Scan :=
  if Piece.isSeparator c then
    let scan := scan.endWord
    if scan.pending = some .softBreak then scan else { scan with pending := some (.separator c) }
  else
    let scan := scan.endPending
    { scan with word := scan.word ++ [c] }

def finish (scan : Scan) : List Value := scan.endWord.endPending.written

/-- The text that is still to be written. -/
def held (scan : Scan) : List Char := scan.pending.elim [] Piece.written ++ scan.word

/-- A scan is in a word, which may be empty, or behind separators. -/
inductive IsSound : Scan → Prop
  | within {written : List Value} {word : List Char} :
      (∀ c ∈ word, Piece.isSeparator c = false) → IsSound ⟨written, word, none⟩
  | behind {written : List Value} {p : Piece} :
      p.breaks = true → IsSound ⟨written, [], some p⟩

/-- What is written when a text has been read. -/
def outcome (scan : Scan) (text : List Char) : List Value :=
  scan.written ++ (Piece.ofText (scan.held ++ text)).map pieceValue

variable {scan : Scan} {written : List Value} {word text : List Char} {c : Char}

theorem outcome_within (written : List Value) (word text : List Char) :
    outcome ⟨written, word, none⟩ text =
      written ++ (Piece.ofText (word ++ text)).map pieceValue := rfl

theorem outcome_behind (written : List Value) (p : Piece) (text : List Char) :
    outcome ⟨written, [], some p⟩ text =
      written ++ (Piece.ofText (p.written ++ text)).map pieceValue := by
  rw [outcome, held, List.append_nil]
  rfl

theorem exists_endWord (written : List Value) (word : List Char) :
    ∃ later, endWord ⟨written, word, none⟩ = ⟨later, [], none⟩ := by
  by_cases hempty : word = []
  · exact ⟨written, by rw [endWord, if_pos hempty, hempty]⟩
  · exact ⟨written ++ [pieceValue (.word word)], by rw [endWord, if_neg hempty]⟩

/-- A word can be written when no character of it is ahead. -/
theorem outcome_endWord (written : List Value) (hword : ∀ c ∈ word, Piece.isSeparator c = false)
    (hhead : ∀ q ∈ (Piece.ofText text).head?, q.breaks = true) :
    (endWord ⟨written, word, none⟩).outcome text = outcome ⟨written, word, none⟩ text := by
  by_cases hempty : word = []
  · rw [endWord, if_pos hempty]
  · have hpieces : Piece.ofText (word ++ text) = .word word :: Piece.ofText text := by
      refine Piece.ofText_written_append (p := .word word) ⟨hempty, hword⟩ (by simp) ?_
      simpa [Piece.breaks] using hhead
    rw [endWord, if_neg hempty, outcome_within, outcome_within, hpieces, List.nil_append,
      List.append_assoc]
    rfl

/-- A separator can be written when no other one is ahead. -/
theorem outcome_endPending {p : Piece} (hp : p.breaks = true)
    (hhead : ∀ q ∈ (Piece.ofText text).head?, q.breaks = false) :
    (endPending ⟨written, [], some p⟩).outcome text = outcome ⟨written, [], some p⟩ text := by
  have hpieces : Piece.ofText (p.written ++ text) = p :: Piece.ofText text := by
    cases p with
    | word text => simp [Piece.breaks] at hp
    | space => exact Piece.extend_of_isSeparator rfl hhead
    | softBreak => exact Piece.extend_of_isSeparator rfl hhead
  rw [outcome_behind, hpieces]
  exact List.append_assoc _ _ _

theorem IsSound.step_of_isSeparator (h : scan.IsSound) (hc : Piece.isSeparator c = true)
    (text : List Char) :
    (scan.next c).IsSound ∧ (scan.next c).outcome text = scan.outcome (c :: text) := by
  cases h with
  | @within written word hword =>
      obtain ⟨later, hlater⟩ := exists_endWord written word
      have hnext : next ⟨written, word, none⟩ c = ⟨later, [], some (.separator c)⟩ := by
        simp [next, hc, hlater]
      have houtcome := outcome_endWord written hword
        (fun q hq => (Piece.breaks_of_mem_head? (l := text) hq).trans hc)
      rw [hnext, ← houtcome, hlater]
      refine ⟨.behind (Piece.breaks_separator c), ?_⟩
      rw [outcome_behind, Piece.ofText_written_separator hc]
      rfl
  | @behind written p hp =>
      have hnext : next ⟨written, [], some p⟩ c =
          ⟨written, [], some (if p = .softBreak then .softBreak else .separator c)⟩ := by
        by_cases hbreak : p = .softBreak <;> simp [next, endWord, hc, hbreak]
      rw [hnext, outcome_behind, outcome_behind, Piece.ofText_written_cons hp hc]
      refine ⟨.behind ?_, rfl⟩
      split
      · rfl
      · exact Piece.breaks_separator c

theorem IsSound.step_of_not_isSeparator (h : scan.IsSound) (hc : Piece.isSeparator c = false)
    (text : List Char) :
    (scan.next c).IsSound ∧ (scan.next c).outcome text = scan.outcome (c :: text) := by
  cases h with
  | @within written word hword =>
      have hnext : next ⟨written, word, none⟩ c = ⟨written, word ++ [c], none⟩ := by
        simp [next, endPending, hc]
      rw [hnext]
      refine ⟨.within ?_, ?_⟩
      · simpa [or_imp, forall_and, hc] using hword
      · rw [outcome_within, outcome_within, List.append_assoc, List.singleton_append]
  | @behind written p hp =>
      have hnext : next ⟨written, [], some p⟩ c = ⟨written ++ [pieceValue p], [c], none⟩ := by
        simp [next, endPending, hc]
      rw [hnext, ← outcome_endPending hp
        (fun q hq => (Piece.breaks_of_mem_head? (l := text) hq).trans hc)]
      exact ⟨.within (by simpa using hc), rfl⟩

/-- With one more character read and one less ahead the outcome is the same. -/
theorem IsSound.step (h : scan.IsSound) (c : Char) (text : List Char) :
    (scan.next c).IsSound ∧ (scan.next c).outcome text = scan.outcome (c :: text) := by
  cases hc : Piece.isSeparator c with
  | true => exact h.step_of_isSeparator hc text
  | false => exact h.step_of_not_isSeparator hc text

theorem IsSound.finish_eq (h : scan.IsSound) : scan.finish = scan.outcome [] := by
  cases h with
  | @within written word hword =>
      obtain ⟨later, hlater⟩ := exists_endWord written word
      rw [← outcome_endWord written hword (by simp [Piece.ofText]), finish, hlater]
      exact (List.append_nil later).symm
  | @behind written p hp =>
      rw [← outcome_endPending hp (by simp [Piece.ofText])]
      exact (List.append_nil _).symm

theorem IsSound.finish_foldl (h : scan.IsSound) (text : List Char) :
    (text.foldl Scan.next scan).finish = scan.outcome text := by
  induction text generalizing scan with
  | nil => exact h.finish_eq
  | cons c text ih =>
      obtain ⟨hnext, houtcome⟩ := h.step c text
      rw [List.foldl_cons, ih hnext, houtcome]

end Scan

/-- The inlines of a text behind those already written, found in one pass. -/
def pushText (written : List Value) (s : String) : List Value :=
  (s.toList.foldl Scan.next ⟨written, [], none⟩).finish

theorem pushText_eq (written : List Value) (s : String) :
    pushText written s = written ++ textValues s := by
  have hsound : Scan.IsSound ⟨written, [], none⟩ := .within (by simp)
  exact hsound.finish_foldl s.toList

example : pushText [] " a  b\nc " = [bare "Space", tagged "Str" (.string "a"), bare "Space",
    tagged "Str" (.string "b"), bare "SoftBreak", tagged "Str" (.string "c"), bare "Space"] := by
  rfl

/-! ### Among other inlines -/

/-- The inlines of children are those of each, one behind the other, up to the first fault. -/
theorem inlineValues_append (before after : List Child) : inlineValues (before ++ after) =
    (do return (← inlineValues before) ++ (← inlineValues after)) := by
  induction before with
  | nil =>
      rw [List.nil_append, inlineValues]
      cases inlineValues after <;> rfl
  | cons c before ih =>
      rw [List.cons_append, inlineValues, inlineValues, ih]
      simp only [bind_assoc, pure_bind, List.append_assoc]

theorem inlineValues_text (s : String) (after : List Child) :
    inlineValues (.text s :: after) = (do return textValues s ++ (← inlineValues after)) := by
  rw [inlineValues, inlineValue]
  rfl

/-- A text is written as one inline for each of its runs, in order, a word with just the characters
of the run, a soft break for separators with a line feed and a space for others. They stand behind
the inlines that are there already, whether these are of other children or any others. -/
theorem text_written_by_runs (s : String) :
    (∃! runs, MaximalRuns s.toList runs) ∧
    ∀ runs, MaximalRuns s.toList runs →
      (∀ before after : List Child, inlineValues (before ++ .text s :: after) =
        (do
          let written ← inlineValues before
          let further ← inlineValues after
          return written ++ runs.map (pieceValue ∘ Piece.ofRun) ++ further)) ∧
      ∀ written : List Value,
        pushText written s = written ++ runs.map (pieceValue ∘ Piece.ofRun) := by
  refine ⟨existsUnique_maximalRuns s.toList, fun runs hruns => ?_⟩
  have hvalues : textValues s = runs.map (pieceValue ∘ Piece.ofRun) := by
    rw [textValues, hruns.ofText_eq, List.map_map]
  refine ⟨fun before after => ?_, fun written => ?_⟩
  · rw [inlineValues_append, inlineValues_text, hvalues]
    simp only [bind_assoc, pure_bind, List.append_assoc]
  · rw [pushText_eq, hvalues]

end DocBridge.Pandoc

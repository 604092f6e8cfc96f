import DocBridge.Markdown.InlineReader
import DocBridge.Markdown.Outline
import DocBridge.Proofs.Text.Prose

/-!
# How prose is read

A line of prose begins no block, and the lines of a paragraph of prose are its inlines, with a soft
break between any two of them. No definition stands in such a paragraph, and nothing is used of what
definitions allow.
-/

namespace DocBridge.Markdown

open Text

variable {cursor : Cursor} {s rest : List Char} {c : Char}

/-! ### Places -/

/-- A place in a line with a text behind it. -/
structure Cursor.Before (cursor : Cursor) (s : List Char) : Prop where
  left : cursor.left = 0
  rest : cursor.rest = s

/-- The text does not begin with spaces and tabs. -/
def Flush (s : List Char) : Prop := ∀ c ∈ s.head?, isSpaceOrTab c = false

theorem Flush.dropWhile_eq (hs : Flush s) : s.dropWhile isSpaceOrTab = s := by
  cases s with
  | nil => rfl
  | cons c rest => rw [List.dropWhile_cons_of_neg (by simp [hs c rfl])]

theorem Flush.widthFrom_eq (hs : Flush s) (column : Nat) : Cursor.widthFrom column s = 0 := by
  cases s with
  | nil => rfl
  | cons c rest =>
      have hc : c ≠ ' ' ∧ c ≠ '\t' := by simpa [isSpaceOrTab] using hs c rfl
      rw [Cursor.widthFrom, if_neg hc.1, if_neg hc.2]

namespace Cursor.Before

theorem ofLine (s : List Char) : (Cursor.ofLine s).Before s := ⟨rfl, rfl⟩

variable (h : cursor.Before s) (hs : Flush s)
include h hs

theorem text : cursor.text = s := by rw [Cursor.text, h.rest, hs.dropWhile_eq]

theorem indentation : cursor.indentation = 0 := by
  rw [Cursor.indentation, h.left, h.rest, hs.widthFrom_eq]

theorem isBlank : cursor.isBlank = s.isEmpty := by rw [Cursor.isBlank, h.text hs]

theorem isBlank_eq_false (hne : s ≠ []) : cursor.isBlank = false := by
  rw [h.isBlank hs, List.isEmpty_eq_false_iff]
  exact hne

end Cursor.Before

/-! ### What lines begin -/

theorem ne_of_isAlpha {d : Char} (hc : c.isAlpha = true) (hd : d.isAlpha = false) : c ≠ d := by
  rintro rfl
  rw [hc] at hd
  cases hd

theorem isSpacing_of_isAlpha (hc : c.isAlpha = true) : isSpacing c = false := by
  simp [isSpacing, isSpaceOrTab, ne_of_isAlpha hc]

theorem isDigit_of_isAlpha (hc : c.isAlpha = true) : c.isDigit = false := by
  have hletter : 'A'.toNat ≤ c.toNat := by
    rcases Bool.or_eq_true_iff.mp hc with hupper | hlower
    · exact (of_decide_eq_true hupper).1
    · have hsmall : 'a'.toNat ≤ c.toNat := of_decide_eq_true (Bool.and_eq_true_iff.mp hlower).1
      exact Nat.le_trans (by decide) hsmall
  rw [Bool.eq_false_iff, ne_eq, Char.isDigit_iff_toNat]
  rintro ⟨-, hnine⟩
  exact absurd (Nat.le_trans hletter hnine) (by decide)

theorem flush_nil : Flush [] := nofun

theorem flush_of_isAlpha (hc : c.isAlpha = true) : Flush (c :: rest) := by
  intro d hd
  obtain rfl := Option.some.inj hd
  simp [isSpaceOrTab, ne_of_isAlpha hc]

theorem flush_prose (p : Prose) : Flush p.chars := by
  obtain ⟨c, rest, hp, hc⟩ := p.exists_cons
  rw [hp]
  exact flush_of_isAlpha hc

theorem dropRightWhile_concat {p : Char → Bool} {init : List Char} (hc : p c = false) :
    dropRightWhile p (init ++ [c]) = init ++ [c] := by
  simp [dropRightWhile, hc]

namespace BlockStart

variable {inParagraph mayBeLazy mayOpenItem : Bool}

/-- An empty line begins nothing. -/
theorem find?_nil (h : cursor.Before []) :
    find? inParagraph mayBeLazy mayOpenItem cursor = none := by
  have hfence : fence? cursor = none := by simp [fence?, h.text flush_nil]
  have hitem : item? inParagraph cursor = none := by simp [item?, marker?, h.text flush_nil]
  rw [find?, h.indentation flush_nil, h.text flush_nil]
  simp [codeIndentation, heading?, hfence, Html.opening?, underline?, isRule, hitem]

/-- A line that begins with a letter is text. -/
theorem find?_of_isAlpha (h : cursor.Before (c :: rest)) (hc : c.isAlpha = true) :
    find? inParagraph mayBeLazy mayOpenItem cursor = none := by
  have hflush : Flush (c :: rest) := flush_of_isAlpha hc
  have hne {d : Char} (hd : d.isAlpha = false) : c ≠ d := ne_of_isAlpha hc hd
  have hheading : heading? (c :: rest) = none := by simp [heading?, hne]
  have hfence : fence? cursor = none := by simp [fence?, h.text hflush, hne]
  have hhtml : Html.opening? inParagraph (c :: rest) = none := by
    unfold Html.opening?
    split
    · next hcons => exact absurd (List.cons.inj hcons).1 (hne (by decide))
    · rfl
  have hunderline : underline? (c :: rest) = none := by simp [underline?, hne]
  have hrule : isRule (c :: rest) = false := by simp [isRule, hne]
  have hitem : item? inParagraph cursor = none := by
    simp [item?, marker?, h.text hflush, hne, isDigit_of_isAlpha hc]
  rw [find?, h.indentation hflush, h.text hflush]
  simp [codeIndentation, hne, hheading, hfence, hhtml, hunderline, hrule, hitem]

theorem find?_prose {p : Prose} (h : cursor.Before p.chars) :
    find? inParagraph mayBeLazy mayOpenItem cursor = none := by
  obtain ⟨c, rest, hp, hc⟩ := p.exists_cons
  rw [hp] at h
  exact find?_of_isAlpha h hc

theorem find?_quote (h : cursor.Before ('>' :: rest)) :
    find? inParagraph mayBeLazy mayOpenItem cursor =
      some (.quote (skipSpace (cursor.toText.skip 1))) := by
  have hflush : Flush ('>' :: rest) := by simp [Flush, isSpaceOrTab]
  rw [find?, h.indentation hflush, h.text hflush]
  simp [codeIndentation]

/-- A line of hashes, a space and a text, as a heading is written. -/
def headingLine (level : Nat) (s : List Char) : List Char := List.replicate level '#' ++ ' ' :: s

theorem trimClosing_prose (p : Prose) : trimClosing p.chars = p.chars := by
  obtain ⟨init, c, hp, hc⟩ := p.exists_concat
  have hhash : (c == '#') = false := by simp [ne_of_isAlpha hc]
  rw [hp, trimClosing, dropRightWhile_concat (isSpacing_of_isAlpha hc),
    dropRightWhile_concat (p := fun c => c == '#') hhash, List.getLast?_concat]
  simp

theorem find?_headingLine {level : Nat} {p : Prose} (hlevel : 1 ≤ level ∧ level ≤ 6)
    (h : cursor.Before (headingLine level p.chars)) :
    find? inParagraph mayBeLazy mayOpenItem cursor = some (.heading level p.chars) := by
  obtain ⟨n, rfl⟩ : ∃ n, level = n + 1 := ⟨level - 1, by omega⟩
  have hflush : Flush (headingLine (n + 1) p.chars) := by
    simp [Flush, headingLine, List.replicate_succ, isSpaceOrTab]
  have hhashes : (headingLine (n + 1) p.chars).takeWhile (· == '#') =
      List.replicate (n + 1) '#' := by
    rw [headingLine, List.takeWhile_append_of_pos (by simp)]
    simp
  have hrest : (headingLine (n + 1) p.chars).drop (n + 1) = ' ' :: p.chars := by
    simp [headingLine]
  have htext : (' ' :: p.chars).dropWhile isSpaceOrTab = p.chars := by
    rw [List.dropWhile_cons_of_pos (by decide), (flush_prose p).dropWhile_eq]
  have hfound : heading? (headingLine (n + 1) p.chars) = some (.heading (n + 1) p.chars) := by
    simp [heading?, hhashes, hrest, htext, trimClosing_prose, isSpaceOrTab, hlevel.2]
  have hquote : (headingLine (n + 1) p.chars).head? ≠ some '>' := by
    simp [headingLine, List.replicate_succ]
  rw [find?, h.indentation hflush, h.text hflush]
  simp [codeIndentation, hquote, hfound]

end BlockStart

/-! ### Paragraphs without definitions -/

theorem Reference.take_of_isAlpha (references : References) (hc : c.isAlpha = true) :
    Reference.take references (c :: rest) = (references, c :: rest) := by
  have hlabel : Link.label? (c :: rest) = none := by
    unfold Link.label?
    split
    · next hcons => exact absurd (List.cons.inj hcons).1 (ne_of_isAlpha hc (by decide))
    · rfl
  have hread : Reference.read? (c :: rest) = none := by
    rw [Reference.read?, hlabel]
    rfl
  rw [Reference.take, List.length_cons, Reference.takeWithin, hread]

/-- A paragraph that begins with a letter is all text. -/
theorem Leaf.close_of_isAlpha (references : References) (hc : c.isAlpha = true) :
    (Leaf.paragraph (c :: rest)).close references =
      (some (.paragraph (c :: rest)), references) := by
  simp [Leaf.close, Reference.take_of_isAlpha references hc, isSpacing_of_isAlpha hc]

/-! ### The inlines of prose -/

/-- Lines of prose, without a line feed at their end. -/
def proseText (first : Prose) (rest : List Prose) : List Char :=
  first.chars ++ rest.flatMap fun p => '\n' :: p.chars

def proseInlines (first : Prose) (rest : List Prose) : List Inline :=
  .text first.text :: rest.flatMap fun p => [.softBreak, .text p.text]

theorem proseText_cons (first next : Prose) (rest : List Prose) :
    proseText first (next :: rest) = first.chars ++ '\n' :: proseText next rest := rfl

theorem exists_proseText_concat (first : Prose) (rest : List Prose) :
    ∃ init c, proseText first rest = init ++ [c] ∧ c.isAlpha = true := by
  induction rest generalizing first with
  | nil =>
      obtain ⟨init, c, hp, hc⟩ := first.exists_concat
      exact ⟨init, c, by simp [proseText, hp], hc⟩
  | cons next rest ih =>
      obtain ⟨init, c, hp, hc⟩ := ih next
      exact ⟨first.chars ++ '\n' :: init, c, by simp [proseText_cons, hp], hc⟩

theorem exists_proseText_cons (first : Prose) (rest : List Prose) :
    ∃ c others, proseText first rest = c :: others ∧ c.isAlpha = true := by
  obtain ⟨c, others, hp, hc⟩ := first.exists_cons
  exact ⟨c, others ++ rest.flatMap fun p => '\n' :: p.chars, by rw [proseText, hp]; rfl, hc⟩

theorem flush_proseText (first : Prose) (rest : List Prose) : Flush (proseText first rest) := by
  obtain ⟨c, others, htext, hc⟩ := exists_proseText_cons first rest
  rw [htext]
  exact flush_of_isAlpha hc

namespace Reading

variable {references : References} {input : List Char} {r : Reading}

theorem isSpecial_prose (p : Prose) : ∀ c ∈ p.chars, isSpecial c = false := by
  have hspecial : "\n_*`\\&<[]!$".toList.all (fun d => !d.isAlpha && d != ' ') = true := by decide
  intro c hc
  rw [isSpecial, List.contains_eq_mem, decide_eq_false_iff_not]
  intro hmem
  have hother := List.all_eq_true.mp hspecial c hmem
  rw [Bool.and_eq_true, Bool.not_eq_true', bne_iff_ne] at hother
  obtain ⟨halpha, hspace⟩ := hother
  rcases p.isAlpha_or_eq_space c hc with h | h
  · rw [halpha] at h
    cases h
  · exact hspace h

theorem next_of_isAlpha (hc : c.isAlpha = true) :
    r.next references input (c :: rest) = r.plain (c :: rest) := by
  have hne {d : Char} (hd : d.isAlpha = false) : c ≠ d := ne_of_isAlpha hc hd
  rw [next]
  · rw [if_neg (by simp [hne])]
  all_goals simp [hne]

/-- Prose up to the end of its line is one piece. -/
theorem next_prose (p : Prose) (hrest : ∀ c ∈ rest.head?, c = '\n')
    (hr : r.isAfterLineBreak = false) :
    r.next references input (p.chars ++ rest) = (r.addText p.chars, rest) := by
  have htake : (p.chars ++ rest).takeWhile (!isSpecial ·) = p.chars := by
    rw [List.takeWhile_append_of_pos fun c hc => by simp [isSpecial_prose p c hc]]
    cases rest with
    | nil => simp
    | cons c rest =>
        obtain rfl := hrest c rfl
        have hfeed : isSpecial '\n' = true := by decide
        simp [hfeed]
  have htrim : dropRightWhile isSpacing p.chars = p.chars := by
    obtain ⟨init, c, hp, hc⟩ := p.exists_concat
    rw [hp, dropRightWhile_concat (isSpacing_of_isAlpha hc)]
  have hplain : r.plain (p.chars ++ rest) = (r.addText p.chars, rest) := by
    simp [plain, htake, htrim, hr]
  obtain ⟨c, others, hp, hc⟩ := p.exists_cons
  rw [← hplain, hp, List.cons_append, next_of_isAlpha hc]

/-- A line end behind a letter is a soft break. -/
theorem next_lineEnd {init : List Char} (hc : c.isAlpha = true) (hs : Flush s) :
    r.next references (init ++ [c] ++ '\n' :: s) ('\n' :: s) = (r.addInline .softBreak, s) := by
  have hbefore : (init ++ [c] ++ '\n' :: s).take
      ((init ++ [c] ++ '\n' :: s).length - s.length - 1) = init ++ [c] := by
    have hlength : (init ++ [c] ++ '\n' :: s).length - s.length - 1 = (init ++ [c]).length := by
      simp only [List.length_append, List.length_cons]
      omega
    rw [hlength, List.take_left]
  have hsoft : ((init ++ [c]).reverse.take 2 == [' ', ' ']) = false := by
    simp [ne_of_isAlpha hc]
  rw [next, lineEnd, hbefore, hsoft, hs.dropWhile_eq]
  rfl

theorem readWithin_step {after : Reading} {bound : Nat} (hs : s ≠ [])
    (hnext : r.next references input s = (after, rest)) :
    readWithin references input (bound + 1) s r =
      readWithin references input bound rest after := by
  rw [readWithin, if_neg (by simp [hs]), hnext]

/-- Lines of prose give their inlines, wherever they stand in the input. -/
theorem readWithin_proseText (first : Prose) (rest : List Prose) (before : List Char) {bound : Nat}
    (hinput : input = before ++ proseText first rest)
    (hbound : (proseText first rest).length ≤ bound) (hr : r.isAfterLineBreak = false) :
    readWithin references input bound (proseText first rest) r =
      { r with pieces := ((proseInlines first rest).map Piece.inline).reverse ++ r.pieces } := by
  induction rest generalizing first before bound r with
  | nil =>
      have hpos := first.length_chars_pos
      have htext : proseText first [] = first.chars ++ [] := rfl
      rw [htext] at hbound ⊢
      rw [List.append_nil] at hbound
      obtain ⟨bound, rfl⟩ : ∃ b, bound = b + 1 := ⟨bound - 1, by omega⟩
      have hne : first.chars ++ [] ≠ [] := by simpa using first.chars_ne_nil
      rw [readWithin_step hne (next_prose first (by simp) hr)]
      cases bound <;> simp [readWithin, addText, addInline, add, proseInlines, first.ofList_chars]
  | cons next rest ih =>
      obtain ⟨init, c, hp, hc⟩ := first.exists_concat
      rw [proseText_cons] at hinput hbound ⊢
      -- The line and its end are a piece each.
      have hpos := first.length_chars_pos
      rw [List.length_append, List.length_cons] at hbound
      obtain ⟨bound, rfl⟩ : ∃ b, bound = b + 1 + 1 := ⟨bound - 2, by omega⟩
      have hline : r.next references input (first.chars ++ '\n' :: proseText next rest) =
          (r.addText first.chars, '\n' :: proseText next rest) := next_prose first (by simp) hr
      have hend : (r.addText first.chars).next references input ('\n' :: proseText next rest) =
          ((r.addText first.chars).addInline .softBreak, proseText next rest) := by
        have hsplit : input = before ++ init ++ [c] ++ '\n' :: proseText next rest := by
          simp [hinput, hp]
        rw [hsplit, next_lineEnd hc (flush_proseText next rest)]
      rw [readWithin_step (by simp) hline, readWithin_step (by simp) hend,
        ih next (before ++ first.chars ++ ['\n']) (by simp [hinput]) (by omega) rfl]
      simp [addText, addInline, add, proseInlines, first.ofList_chars]

end Reading

theorem Emphasis.resolve_inl (inlines : List Inline) :
    Emphasis.resolve (inlines.map Sum.inl) = inlines := by
  have hbehind (before : List (Inline ⊕ Run)) :
      Emphasis.resolveBehind before (inlines.map Sum.inl) =
        (inlines.map Sum.inl).reverse ++ before := by
    induction inlines generalizing before with
    | nil => rfl
    | cons i rest ih =>
        rw [List.map_cons, Emphasis.resolveBehind, ih]
        · simp
        · nofun
  rw [Emphasis.resolve, hbehind, List.append_nil, List.reverse_reverse, List.map_map]
  exact List.map_id'' (fun i => rfl) inlines

/-- Prose is read as its lines, and nothing is used of the allowance. A paragraph has a line feed at
its end. -/
theorem readInlines_proseText (references : References) (first : Prose) (rest : List Prose)
    {blanks : List Char} (hblanks : blanks = [] ∨ blanks = ['\n']) (allowance : Nat) :
    readInlines references (proseText first rest ++ blanks) allowance =
      (proseInlines first rest, allowance) := by
  have htrim : dropRightWhile isSpacing (proseText first rest ++ blanks) =
      proseText first rest := by
    obtain ⟨init, c, hp, hc⟩ := exists_proseText_concat first rest
    rw [hp]
    rcases hblanks with rfl | rfl
    · rw [List.append_nil, dropRightWhile_concat (isSpacing_of_isAlpha hc)]
    · have hfeed : isSpacing '\n' = true := by decide
      simp [dropRightWhile, hfeed, isSpacing_of_isAlpha hc]
  have hpieces : Reading.readWithin references (proseText first rest) (proseText first rest).length
      (proseText first rest) (.empty allowance) = { Reading.empty allowance with
        pieces := ((proseInlines first rest).map Piece.inline).reverse ++ [] } :=
    Reading.readWithin_proseText first rest [] rfl (Nat.le_refl _) rfl
  have hresolve : (proseInlines first rest).map (Piece.resolvable ∘ Piece.inline) =
      (proseInlines first rest).map Sum.inl := rfl
  rw [readInlines, htrim]
  simp only [hpieces]
  simp only [Reading.empty, List.append_nil, List.reverse_reverse, List.map_map]
  rw [hresolve, Emphasis.resolve_inl]

theorem readInlines_chars (references : References) (p : Prose) (allowance : Nat) :
    readInlines references p.chars allowance = ([.text p.text], allowance) := by
  have hread := readInlines_proseText references p [] (.inl rfl) allowance
  rwa [List.append_nil, proseText, List.flatMap_nil, List.append_nil] at hread

end DocBridge.Markdown

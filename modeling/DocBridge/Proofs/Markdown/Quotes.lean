import DocBridge.Proofs.Markdown.Prose
import Mathlib.Logic.Function.Iterate

/-!
# Open block quotes

While nothing but block quotes is open, an outline is told by the blocks that stand in each of them
and in the document. A line behind some brackets goes on with as many quotes, opens those that are
not open yet and then adds its text; a blank one closes the quotes it has no brackets for.
-/

namespace DocBridge.Markdown

open Text

variable {n count : Nat} {line : String} {rest : List Char} {b : Block (List Char)}
  {closed : Closed} {children : List Closed} {containers : List Container} {leaf : Leaf}
  {cursor : Cursor} {o : Outline}

/-! ### Lines behind brackets -/

/-- A line in a block quote. -/
def quoteLine (line : String) : String := if line = "" then ">" else "> " ++ line

/-- A line in so many block quotes. -/
def quoted (n : Nat) (line : String) : String := quoteLine^[n] line

theorem quoted_succ (n : Nat) (line : String) :
    quoted (n + 1) line = quoteLine (quoted n line) := Function.iterate_succ_apply' _ _ _

theorem map_quoted_zero (ls : List String) : ls.map (quoted 0) = ls :=
  List.map_id'' (fun _ => rfl) ls

theorem toList_quoteLine (line : String) :
    (quoteLine line).toList = '>' :: if line = "" then [] else ' ' :: line.toList := by
  rw [quoteLine]
  split
  · rfl
  · rw [String.toList_append]
    rfl

theorem length_lt_quoteLine (line : String) :
    line.toList.length < (quoteLine line).toList.length := by
  rw [toList_quoteLine]
  split
  · next hline => simp [hline]
  · simp only [List.length_cons]
    omega

theorem le_length_quoted (n : Nat) (line : String) : n ≤ (quoted n line).toList.length := by
  induction n with
  | zero => exact Nat.zero_le _
  | succ n ih =>
      rw [quoted_succ]
      exact Nat.lt_of_le_of_lt ih (length_lt_quoteLine _)

theorem flush_bracket (s : List Char) : Flush ('>' :: s) := by simp [Flush, isSpaceOrTab]

/-- Behind its bracket a line is as it was. -/
theorem Cursor.Before.behindBracket (h : cursor.Before (quoteLine line).toList) :
    (BlockStart.skipSpace (cursor.toText.skip 1)).Before line.toList := by
  rw [toList_quoteLine] at h
  have htext := h.text (flush_bracket _)
  split at htext
  · next hline =>
    rw [BlockStart.skipSpace, Cursor.toText, htext]
    exact ⟨rfl, by simp [hline, Cursor.skip, Cursor.atSpace]⟩
  · rw [BlockStart.skipSpace, Cursor.toText, htext]
    exact ⟨rfl, by simp [Cursor.skip, Cursor.atSpace, Cursor.advance, isSpaceOrTab]⟩

/-- A line that does not begin a quote, nor with a space. -/
structure IsContent (line : String) : Prop where
  flush : Flush line.toList
  noBracket : line.toList.head? ≠ some '>'

theorem isContent_empty : IsContent "" := ⟨flush_nil, by simp⟩

theorem isContent_prose (p : Prose) : IsContent p.text := by
  obtain ⟨c, rest, hp, hc⟩ := p.exists_cons
  refine ⟨flush_prose p, ?_⟩
  have htext : p.text.toList = c :: rest := hp
  rw [htext]
  simp [ne_of_isAlpha hc]

theorem isContent_headingLine {level : Nat} (hlevel : 1 ≤ level) (s : List Char) :
    IsContent (String.ofList (BlockStart.headingLine level s)) := by
  obtain ⟨n, rfl⟩ : ∃ n, level = n + 1 := ⟨level - 1, by omega⟩
  constructor
  · simp [Flush, BlockStart.headingLine, List.replicate_succ, isSpaceOrTab]
  · simp [BlockStart.headingLine, List.replicate_succ]

/-! ### Levels -/

/-- The blocks in the open quotes and in the document, the innermost first. -/
abbrev Levels := List (List (Block (List Char)))

namespace Levels

variable {levels : Levels}

/-- Adds blocks to the innermost quote. -/
def add (blocks : List (Block (List Char))) : Levels → Levels
  | [] => []
  | top :: rest => (top ++ blocks) :: rest

/-- Closes the innermost quote. -/
def closeTop : Levels → Levels
  | top :: parent :: rest => (parent ++ [.quote top]) :: rest
  | levels => levels

/-- Closes all but a number of quotes. -/
def closeTo (n : Nat) (levels : Levels) : Levels := closeTop^[levels.length - (n + 1)] levels

/-- Opens quotes up to a number of them. -/
def openTo (n : Nat) (levels : Levels) : Levels :=
  List.replicate (n + 1 - levels.length) [] ++ levels

theorem length_add (blocks : List (Block (List Char))) (levels : Levels) :
    (levels.add blocks).length = levels.length := by
  cases levels <;> rfl

theorem add_nil (levels : Levels) : levels.add [] = levels := by
  cases levels with
  | nil => rfl
  | cons top rest => rw [add, List.append_nil]

theorem add_add (blocks others : List (Block (List Char))) (levels : Levels) :
    (levels.add blocks).add others = levels.add (blocks ++ others) := by
  cases levels with
  | nil => rfl
  | cons top rest => rw [add, add, add, List.append_assoc]

theorem closeTop_cons (top : List (Block (List Char))) (h : 0 < levels.length) :
    closeTop (top :: levels) = levels.add [.quote top] := by
  cases levels with
  | nil => simp at h
  | cons parent rest => rfl

theorem length_closeTop (levels : Levels) (h : 1 < levels.length) :
    levels.closeTop.length + 1 = levels.length := by
  obtain - | ⟨top, - | ⟨parent, rest⟩⟩ := levels
  · simp at h
  · simp at h
  · simp [closeTop]

theorem length_iterate_closeTop (count : Nat) (levels : Levels) (h : count < levels.length) :
    (closeTop^[count] levels).length + count = levels.length := by
  induction count generalizing levels with
  | zero => rfl
  | succ count ih =>
      have htop := length_closeTop levels (by omega)
      rw [Function.iterate_succ_apply, ← Nat.add_assoc, ih _ (by omega), htop]

theorem length_closeTo (h : n < levels.length) : (levels.closeTo n).length = n + 1 := by
  have hlength := length_iterate_closeTop (levels.length - (n + 1)) levels (by omega)
  rw [closeTo]
  omega

theorem closeTo_of_length (h : levels.length = n + 1) : levels.closeTo n = levels := by
  rw [closeTo, h, Nat.sub_self]
  rfl

theorem closeTo_eq_closeTop (h : n + 1 < levels.length) :
    levels.closeTo n = (levels.closeTo (n + 1)).closeTop := by
  have hcount : levels.length - (n + 1) = levels.length - (n + 1 + 1) + 1 := by omega
  rw [closeTo, hcount, Function.iterate_succ_apply']
  rfl

theorem length_openTo (h : levels.length ≤ n + 1) : (levels.openTo n).length = n + 1 := by
  rw [openTo, List.length_append, List.length_replicate]
  omega

theorem openTo_of_length (h : levels.length = n + 1) : levels.openTo n = levels := by
  rw [openTo, h, Nat.sub_self]
  rfl

theorem openTo_succ (h : levels.length ≤ n + 1) :
    levels.openTo (n + 1) = [] :: levels.openTo n := by
  have hcount : n + 1 + 1 - levels.length = n + 1 - levels.length + 1 := by omega
  rw [openTo, hcount, List.replicate_succ]
  rfl

end Levels

/-! ### Containers and their levels -/

/-- Only quotes are open, with these blocks in them and in the document. -/
inductive Stands : List Container → Levels → Prop
  | document (children : List Closed) : Stands [.document children] [blocksOf children]
  | quote {containers : List Container} {levels : Levels} (children : List Closed)
      (h : Stands containers levels) :
      Stands (.quote children :: containers) (blocksOf children :: levels)

theorem blocksOf_cons (closed : Closed) (children : List Closed) :
    blocksOf (closed :: children) = blocksOf children ++ closed.block.toList := by
  cases hblock : closed.block <;> simp [blocksOf, hblock]

namespace Stands

variable {levels : Levels}

theorem length_eq (h : Stands containers levels) : containers.length = levels.length := by
  induction h with
  | document children => rfl
  | quote children h ih => simp [ih]

theorem length_pos (h : Stands containers levels) : 0 < levels.length := by
  cases h <;> simp

theorem addToTop (h : Stands containers levels) (hblock : closed.block = some b) :
    Stands (Outline.addToTop closed containers) (levels.add [b]) := by
  have hblocks (children : List Closed) :
      blocksOf (closed :: children) = blocksOf children ++ [b] := by
    rw [blocksOf_cons, hblock]
    rfl
  cases h with
  | document children =>
      rw [Levels.add, ← hblocks]
      exact .document _
  | quote children h =>
      rw [Levels.add, ← hblocks]
      exact .quote _ h

/-- Blank lines do not matter to what stands. -/
theorem markLastBlank {top : Container} (h : Stands (top :: containers) levels) :
    Stands (top.markLastBlank :: containers) levels := by
  have hblocks (last : Closed) (rest : List Closed) :
      blocksOf ({ last with endsBlank := true } :: rest) = blocksOf (last :: rest) := by
    rw [blocksOf_cons, blocksOf_cons]
  cases h with
  | document children =>
      cases children with
      | nil => exact .document []
      | cons last rest => exact hblocks last rest ▸ .document _
  | quote children h =>
      cases children with
      | nil => exact .quote [] h
      | cons last rest => exact hblocks last rest ▸ .quote _ h

theorem head?_isList (h : Stands containers levels) :
    ∀ container ∈ containers.head?, container.isList = false := by
  cases h <;> simp [Container.isList]

theorem reverse_eq (h : Stands containers levels) :
    ∃ children quotes, containers.reverse = .document children :: quotes ∧
      quotes.length + 1 = levels.length ∧ ∀ container ∈ quotes, ∃ cs, container = .quote cs := by
  induction h with
  | document children => exact ⟨children, [], rfl, rfl, by simp⟩
  | @quote containers levels children h ih =>
      obtain ⟨outer, quotes, hreverse, hlength, hquotes⟩ := ih
      refine ⟨outer, quotes ++ [.quote children], ?_, ?_, ?_⟩
      · rw [List.reverse_cons, hreverse, List.cons_append]
      · simp [hlength]
      · simpa [or_imp, forall_and] using hquotes

end Stands

/-! ### Outlines in which quotes are open -/

namespace Outline

variable {levels : Levels}

/-- Nothing but quotes is open, and nothing is defined. -/
structure Rests (o : Outline) (levels : Levels) : Prop where
  leaf : o.leaf = none
  references : o.references = []
  stands : Stands o.containers levels

/-- A leaf is open in the innermost quote. -/
def Holds (o : Outline) (levels : Levels) (leaf : Leaf) : Prop :=
  ∃ around : Outline, around.Rests levels ∧ o = around.withLeaf leaf

/-- The blocks an outline would have if its leaf were closed. A blank line closes it. -/
inductive Shows (o : Outline) : Levels → Prop
  | rests {levels : Levels} (h : o.Rests levels) : Shows o levels
  | holds {levels : Levels} {leaf : Leaf} {b : Block (List Char)} (h : o.Holds levels leaf)
      (hclose : leaf.close [] = (some b, []))
      (hblank : ∀ cursor : Cursor, cursor.isBlank = true → leaf.onLine cursor = .outside) :
      Shows o (levels.add [b])

theorem rests_empty : empty.Rests [[]] := ⟨rfl, rfl, .document []⟩

theorem Rests.push (h : o.Rests levels) : (o.push (.quote [])).Rests ([] :: levels) :=
  ⟨h.leaf, h.references, .quote [] h.stands⟩

theorem Rests.closeTop (h : o.Rests levels) (endsBlank : Bool) :
    (o.closeTop endsBlank).Rests levels.closeTop := by
  obtain ⟨hleaf, hreferences, hstands⟩ := h
  obtain ⟨containers, leaf, blank, references⟩ := o
  cases hstands with
  | document children => exact ⟨hleaf, hreferences, .document children⟩
  | quote children hparent =>
      have hclosed (closed : Closed) (hblock : closed.block = some (.quote (blocksOf children))) :=
        hparent.addToTop hblock
      cases hparent <;> exact ⟨hleaf, hreferences, hclosed ⟨_, endsBlank⟩ rfl⟩

theorem Rests.closeContainers (h : o.Rests levels) (beforeBlank : Bool) (count : Nat) :
    (o.closeContainers beforeBlank count).Rests (Levels.closeTop^[count] levels) := by
  induction count generalizing o levels with
  | zero => exact h
  | succ count ih => exact ih (h.closeTop _)

theorem Shows.closeLeaf (h : o.Shows levels) (endsBlank : Bool) :
    (o.closeLeaf false endsBlank).Rests levels := by
  cases h with
  | rests h =>
      rw [Outline.closeLeaf, h.leaf]
      exact h
  | holds h hclose =>
      obtain ⟨around, h, rfl⟩ := h
      rw [Outline.closeLeaf, Outline.withLeaf]
      dsimp only
      rw [h.references, hclose]
      exact ⟨rfl, rfl, h.stands.addToTop rfl⟩

theorem Shows.closeBlocks (h : o.Shows levels) (beforeBlank : Bool) (count : Nat) :
    (o.closeBlocks false beforeBlank count).Rests (Levels.closeTop^[count] levels) :=
  (h.closeLeaf _).closeContainers _ _

theorem Rests.topIsList (h : o.Rests levels) : o.topIsList = false := by
  have htop := h.stands.head?_isList
  rw [Outline.topIsList]
  cases hhead : o.containers.head? with
  | none => rfl
  | some top => exact htop top hhead

theorem Rests.interrupt (h : o.Rests levels) (takesBlock : Container → Bool) :
    (o.interrupt takesBlock 0).Rests levels := by
  have hcloses : o.interrupt takesBlock 0 = o.closeBlocks false false 0 := by
    obtain ⟨-, -, hstands⟩ := h
    obtain ⟨containers, leaf, endsBlank, references⟩ := o
    cases hstands <;> rfl
  rw [hcloses]
  exact (Shows.rests h).closeBlocks false 0

theorem Shows.addBlank (h : o.Shows levels) (count : Nat) :
    (o.addBlank count).Rests (Levels.closeTop^[count] levels) := by
  obtain ⟨hleaf, hreferences, hstands⟩ := h.closeBlocks true count
  unfold Outline.addBlank
  dsimp only
  split
  · exact ⟨hleaf, hreferences, hstands⟩
  · next top rest hcontainers =>
      rw [hcontainers] at hstands
      refine ⟨hleaf, hreferences, ?_⟩
      dsimp only
      split
      · exact hstands
      · exact hstands.markLastBlank

theorem Shows.exists_stands (h : o.Shows levels) :
    ∃ levels', Stands o.containers levels' ∧ levels'.length = levels.length := by
  cases h with
  | rests h => exact ⟨levels, h.stands, rfl⟩
  | holds h =>
      obtain ⟨around, h, rfl⟩ := h
      exact ⟨_, h.stands, (Levels.length_add _ _).symm⟩

theorem Shows.length_eq (h : o.Shows levels) : o.containers.length = levels.length := by
  obtain ⟨levels', hstands, hlength⟩ := h.exists_stands
  rw [hstands.length_eq, hlength]

/-- When all quotes are closed, the blocks of the document are left. -/
theorem Shows.finish (h : o.Shows levels) {blocks : List (Block (List Char))}
    (hblocks : levels.closeTo 0 = [blocks]) : o.finish = (blocks, []) := by
  have hrests := h.closeBlocks false (o.containers.length - 1)
  have hlevels : Levels.closeTop^[o.containers.length - 1] levels = [blocks] := by
    rw [h.length_eq]
    exact hblocks
  rw [hlevels] at hrests
  have hstands := hrests.stands
  have hflat : (o.closeBlocks false false (o.containers.length - 1)).containers.flatMap
      (fun container => blocksOf container.children) = blocks := by
    generalize (o.closeBlocks false false (o.containers.length - 1)).containers = containers
      at hstands
    cases hstands with
    | document children => simp [Container.children]
    | quote children hparent => exact absurd hparent.length_pos (by simp)
  rw [Outline.finish, hflat, hrests.references]

/-! ### Lines -/

theorem unmatched_quoted (hasLeaf : Bool) (hline : IsContent line)
    (hquotes : ∀ container ∈ containers, ∃ cs, container = .quote cs)
    (h : cursor.Before (quoted n line).toList) :
    ∃ cursor', unmatched hasLeaf containers cursor = (containers.length - n, cursor') ∧
      cursor'.Before (quoted (n - containers.length) line).toList := by
  induction containers generalizing n cursor with
  | nil => exact ⟨cursor, by simp [unmatched], h⟩
  | cons container containers ih =>
      obtain ⟨⟨cs, rfl⟩, hothers⟩ := List.forall_mem_cons.mp hquotes
      cases n with
      | zero =>
          have hstop (isOccupied : Bool) :
              (Container.quote cs).continue? isOccupied cursor = none := by
            rw [Container.continue?, if_neg]
            rintro ⟨-, hbracket⟩
            rw [h.text hline.flush] at hbracket
            exact hline.noBracket hbracket
          refine ⟨cursor, ?_, by simpa using h⟩
          rw [unmatched, hstop]
          rfl
      | succ n =>
          rw [quoted_succ] at h
          have hbracket := h
          rw [toList_quoteLine] at hbracket
          have hgoes (isOccupied : Bool) : (Container.quote cs).continue? isOccupied cursor =
              some (BlockStart.skipSpace (cursor.toText.skip 1)) := by
            rw [Container.continue?, if_pos]
            rw [hbracket.indentation (flush_bracket _), hbracket.text (flush_bracket _)]
            exact ⟨by decide, rfl⟩
          rw [unmatched, hgoes, List.length_cons, Nat.add_sub_add_right, Nat.add_sub_add_right]
          exact ih hothers h.behindBracket

theorem unmatched_of_stands (h : Stands containers levels) (hasLeaf : Bool) (hline : IsContent line)
    (n : Nat) : ∃ cursor,
      unmatched hasLeaf containers.reverse (.ofLine (quoted n line).toList) =
        (levels.length - (n + 1), cursor) ∧
      cursor.Before (quoted (n + 1 - levels.length) line).toList := by
  obtain ⟨children, quotes, hreverse, hlength, hquotes⟩ := h.reverse_eq
  obtain ⟨cursor, hunmatched, hcursor⟩ :=
    unmatched_quoted hasLeaf hline hquotes (Cursor.Before.ofLine (quoted n line).toList)
  rw [← hlength, Nat.add_sub_add_right, Nat.add_sub_add_right, hreverse, Outline.unmatched]
  exact ⟨cursor, hunmatched, hcursor⟩

/-- Brackets of a line open quotes. What then follows is the line without them. -/
theorem Rests.addBlocks_quoted (h : o.Rests levels) (hcursor : cursor.Before (quoted n line).toList)
    (isFresh : Bool) (depth bound : Nat) :
    ∃ (o' : Outline) (cursor' : Cursor) (isFresh' : Bool) (depth' : Nat),
      o.addBlocks false isFresh depth 0 cursor (bound + n) =
        o'.addBlocks false isFresh' depth' 0 cursor' bound ∧
      o'.Rests (List.replicate n [] ++ levels) ∧ cursor'.Before line.toList := by
  induction n generalizing o levels cursor isFresh depth with
  | zero => exact ⟨o, cursor, isFresh, depth, rfl, h, hcursor⟩
  | succ n ih =>
      rw [quoted_succ] at hcursor
      have hbracket := hcursor
      rw [toList_quoteLine] at hbracket
      -- The quote that is opened is empty and the new innermost one.
      have hopen := (h.interrupt fun _ => false).push
      obtain ⟨o', cursor', isFresh', depth', hblocks, hrests, hline⟩ :=
        ih hopen hcursor.behindBracket true (depth + 1)
      refine ⟨o', cursor', isFresh', depth', ?_, ?_, hline⟩
      · rw [← Nat.add_assoc, addBlocks]
        simp only [h.leaf, BlockStart.find?_quote hbracket]
        exact hblocks
      · rw [List.replicate_succ', List.append_assoc]
        exact hrests

/-- A line goes on with the quotes that are open and opens the others it has brackets for. -/
theorem Rests.addLine_quoted (h : o.Rests levels) (hline : IsContent line)
    (hn : levels.length ≤ n + 1) :
    ∃ (o' : Outline) (cursor : Cursor) (isFresh : Bool) (depth bound : Nat),
      o.addLine (quoted n line).toList = o'.addBlocks false isFresh depth 0 cursor (bound + 1) ∧
      o'.Rests (levels.openTo n) ∧ cursor.Before line.toList := by
  obtain ⟨cursor, hunmatched, hcursor⟩ := unmatched_of_stands h.stands o.leaf.isSome hline n
  have hlength := le_length_quoted n line
  have hpos := h.stands.length_pos
  obtain ⟨bound, hbound⟩ : ∃ bound, (quoted n line).toList.length + 1 =
      bound + 1 + (n + 1 - levels.length) :=
    ⟨(quoted n line).toList.length - (n + 1 - levels.length), by omega⟩
  obtain ⟨o', cursor', isFresh, depth, hblocks, hrests, hcontent⟩ :=
    h.addBlocks_quoted hcursor false 1 (bound + 1)
  refine ⟨o', cursor', isFresh, depth, bound, ?_, hrests, hcontent⟩
  rw [← hblocks, ← hbound, addLine, hunmatched, Nat.sub_eq_zero_of_le hn]
  simp only [h.leaf]

theorem addBlocks_nil (hcursor : cursor.Before "".toList) (isFresh : Bool)
    (depth count bound : Nat) :
    o.addBlocks false isFresh depth count cursor (bound + 1) =
      if isFresh then { o with endsBlank := false } else o.addBlank count := by
  have hnil : cursor.Before [] := hcursor
  simp [addBlocks, BlockStart.find?_nil hnil, hnil.isBlank flush_nil]

/-- A blank line closes the quotes it has no brackets for. -/
theorem Shows.addLine_blank (h : o.Shows levels) (hn : n < levels.length) :
    (o.addLine (quoted n "").toList).Rests (levels.closeTo n) := by
  obtain ⟨levels', hstands, hlength⟩ := h.exists_stands
  obtain ⟨cursor, hunmatched, hcursor⟩ :=
    unmatched_of_stands hstands o.leaf.isSome isContent_empty n
  have hbrackets : n + 1 - levels.length = 0 := by omega
  rw [hlength, hbrackets] at hcursor
  rw [hlength] at hunmatched
  have hnil : cursor.Before [] := hcursor
  have hblank : cursor.isBlank = true := hnil.isBlank flush_nil
  -- No leaf that may be open goes on with a blank line, so the line is added to the quotes.
  have hproceeds : o.addLine (quoted n "").toList = o.addBlocks false false 1
      (levels.length - (n + 1)) cursor ((quoted n "").toList.length + 1) := by
    rw [addLine, hunmatched]
    cases h with
    | rests h => simp only [h.leaf]
    | holds h hclose houtside =>
        obtain ⟨around, h, rfl⟩ := h
        simp only [Outline.withLeaf, houtside cursor hblank]
        split <;> rfl
  rw [hproceeds, addBlocks_nil hcursor]
  exact h.addBlank _

/-- A blank line with more brackets than quotes are open opens those quotes. -/
theorem Rests.addLine_blank (h : o.Rests levels) (hn : levels.length ≤ n + 1) :
    (o.addLine (quoted n "").toList).Rests (levels.openTo n) := by
  obtain ⟨o', cursor, isFresh, depth, bound, hadd, hrests, hcursor⟩ :=
    h.addLine_quoted isContent_empty hn
  rw [hadd, addBlocks_nil hcursor]
  split
  · exact ⟨hrests.leaf, hrests.references, hrests.stands⟩
  · exact (Shows.rests hrests).addBlank 0

theorem Holds.shows_paragraph {first : Prose} {others : List Prose}
    (h : o.Holds levels (.paragraph (proseText first others ++ ['\n']))) :
    o.Shows (levels.add [.paragraph (proseText first others ++ ['\n'])]) := by
  obtain ⟨c, rest, htext, hc⟩ := exists_proseText_cons first others
  refine .holds h ?_ fun cursor hblank => by rw [Leaf.onLine, if_pos hblank]
  rw [htext]
  exact Leaf.close_of_isAlpha [] hc

theorem Holds.shows_heading {level : Nat} {text : List Char}
    (h : o.Holds levels (.heading level text)) : o.Shows (levels.add [.heading level text]) :=
  .holds h rfl fun _ _ => rfl

/-- Prose begins a paragraph where none is open. -/
theorem Shows.addBlocks_prose (h : o.Shows levels)
    (hleaf : ∀ text, o.leaf ≠ some (.paragraph text)) {p : Prose} (hcursor : cursor.Before p.chars)
    (isFresh : Bool) (depth bound : Nat) :
    (o.addBlocks false isFresh depth 0 cursor (bound + 1)).Holds levels
      (.paragraph (proseText p [] ++ ['\n'])) := by
  have hclosed := h.closeBlocks false 0
  have hflush := flush_prose p
  have hblank : cursor.isBlank = false := hcursor.isBlank_eq_false hflush p.chars_ne_nil
  refine ⟨_, hclosed, ?_⟩
  rw [addBlocks, BlockStart.find?_prose hcursor]
  simp only [hblank, Bool.false_eq_true, if_false]
  unfold Outline.addText
  split
  · next text hparagraph => exact absurd hparagraph (hleaf text)
  · simp only [hclosed.topIsList, hcursor.text hflush, proseText, List.flatMap_nil,
      List.append_nil, Bool.false_eq_true, if_false]

theorem Rests.addLine_prose (h : o.Rests levels) (hn : levels.length ≤ n + 1) (p : Prose) :
    (o.addLine (quoted n p.text).toList).Holds (levels.openTo n)
      (.paragraph (proseText p [] ++ ['\n'])) := by
  obtain ⟨o', cursor, isFresh, depth, bound, hadd, hrests, hcursor⟩ :=
    h.addLine_quoted (isContent_prose p) hn
  rw [hadd]
  exact (Shows.rests hrests).addBlocks_prose (by simp [hrests.leaf]) hcursor _ _ _

theorem Rests.addLine_heading (h : o.Rests levels) (hn : levels.length ≤ n + 1) {level : Nat}
    (hlevel : 1 ≤ level ∧ level ≤ 6) (p : Prose) :
    (o.addLine (quoted n (String.ofList (BlockStart.headingLine level p.chars))).toList).Holds
      (levels.openTo n) (.heading level p.chars) := by
  obtain ⟨o', cursor, isFresh, depth, bound, hadd, hrests, hcursor⟩ :=
    h.addLine_quoted (isContent_headingLine hlevel.1 p.chars) hn
  rw [String.toList_ofList] at hcursor
  rw [hadd, addBlocks, BlockStart.find?_headingLine hlevel hcursor]
  exact ⟨_, hrests.interrupt _, rfl⟩

/-! ### Blocks down to a depth -/

/-- The blocks an outline would have if its leaf and all but so many quotes were closed. -/
def ShowsAt (o : Outline) (n : Nat) (levels : Levels) : Prop :=
  ∃ deeper, o.Shows deeper ∧ n < deeper.length ∧ deeper.closeTo n = levels

theorem Shows.showsAt (h : o.Shows levels) (hlength : levels.length = n + 1) :
    o.ShowsAt n levels :=
  ⟨levels, h, by omega, Levels.closeTo_of_length hlength⟩

theorem ShowsAt.length_eq (h : o.ShowsAt n levels) : levels.length = n + 1 := by
  obtain ⟨deeper, -, hlength, rfl⟩ := h
  exact Levels.length_closeTo hlength

theorem ShowsAt.addLine_blank (h : o.ShowsAt n levels) :
    (o.addLine (quoted n "").toList).Rests levels := by
  obtain ⟨deeper, hshows, hlength, rfl⟩ := h
  exact hshows.addLine_blank hlength

/-- A quote that is closed is a block of the one around it. -/
theorem ShowsAt.quote {top : List (Block (List Char))} (h : o.ShowsAt (n + 1) (top :: levels)) :
    o.ShowsAt n (levels.add [.quote top]) := by
  have hlevels : levels.length + 1 = n + 1 + 1 := h.length_eq
  obtain ⟨deeper, hshows, hlength, hclosed⟩ := h
  refine ⟨deeper, hshows, by omega, ?_⟩
  rw [Levels.closeTo_eq_closeTop hlength, hclosed, Levels.closeTop_cons _ (by omega)]

/-- When no more lines follow, the blocks of the document are left. -/
theorem ShowsAt.finish {blocks : List (Block (List Char))} (h : o.ShowsAt 0 [blocks]) :
    o.finish = (blocks, []) := by
  obtain ⟨deeper, hshows, -, hclosed⟩ := h
  exact hshows.finish hclosed

end Outline

end DocBridge.Markdown

import DocBridge.Markdown.InlineReader
import DocBridge.Proofs.Markdown.Lines
import DocBridge.Proofs.Markdown.Prose
import DocBridge.Proofs.Markdown.Verbatim
import Mathlib.Data.List.TakeDrop

/-!
# The ends of written code

Code is written between backticks, and a block between lines of three of them. The text does not
matter for this, but for a second backtick around code that has some. The reader ends a span at the
next run of the length of the opening one, and a block at the first line that is a fence. So a block
is kept together exactly if no line of its text is a fence, and a span is read as its text if the
runs and the spaces in it allow it.
-/

namespace DocBridge.Markdown

open Text Writer

variable {c : Char} {s line info text : List Char} {lines : List (List Char)}

/-! ### Fences -/

namespace Cursor

theorem widthFrom_replicate_append (hs : Flush s) (column n : Nat) :
    widthFrom column (List.replicate n ' ' ++ s) = n := by
  induction n generalizing column with
  | zero => exact hs.widthFrom_eq column
  | succ n ih =>
      rw [List.replicate_succ, List.cons_append, widthFrom, if_pos rfl, ih, Nat.add_comm]

/-- Before the first tab stop only spaces indent a text. -/
theorem eq_replicate_append {column : Nat} (h : column + widthFrom column s < 4) :
    ∃ n, n + column ≤ 3 ∧ s = List.replicate n ' ' ++ s.dropWhile isSpaceOrTab := by
  induction s generalizing column with
  | nil => exact ⟨0, by omega, rfl⟩
  | cons c s ih =>
      rw [widthFrom] at h
      split at h
      · next hspace =>
          obtain ⟨n, hn, hs⟩ := @ih (column + 1) (by omega)
          refine ⟨n + 1, by omega, ?_⟩
          rw [hspace, List.dropWhile_cons_of_pos (by decide), List.replicate_succ, List.cons_append,
            ← hs]
      · next hspace =>
          split at h
          · rw [toTabStop] at h
            omega
          · next htab =>
              have hc : isSpaceOrTab c = false := by simp [isSpaceOrTab, hspace, htab]
              refine ⟨0, by omega, ?_⟩
              rw [List.dropWhile_cons_of_neg (by simp [hc])]
              rfl

end Cursor

theorem Leaf.isClosingFence_iff (hc : isSpaceOrTab c = false) (length : Nat) :
    isClosingFence c length s = true ↔
      ∃ n blanks, length ≤ n ∧ (∀ d ∈ blanks, isSpaceOrTab d = true) ∧
        s = List.replicate n c ++ blanks := by
  simp only [isClosingFence, Bool.and_eq_true, decide_eq_true_eq, List.all_eq_true]
  constructor
  · rintro ⟨hlength, hblanks⟩
    have hfence : s.takeWhile (· == c) = List.replicate (s.takeWhile (· == c)).length c :=
      List.eq_replicate_of_mem fun d hd => by simpa using List.mem_takeWhile_imp hd
    refine ⟨_, _, hlength, hblanks, ?_⟩
    rw [← hfence]
    exact (List.prefix_iff_eq_append.mp (List.takeWhile_prefix _)).symm
  · rintro ⟨n, blanks, hlength, hblanks, rfl⟩
    have hnone : blanks.takeWhile (· == c) = [] := by
      cases blanks with
      | nil => rfl
      | cons d blanks =>
          refine List.takeWhile_cons_of_neg ?_
          rintro hd
          rw [beq_iff_eq.mp hd] at hblanks
          simp [hc] at hblanks
    have htake : (List.replicate n c ++ blanks).takeWhile (· == c) = List.replicate n c := by
      rw [List.takeWhile_append_of_pos (by simp), hnone, List.append_nil]
    rw [htake, List.length_replicate, List.drop_left' List.length_replicate]
    exact ⟨hlength, hblanks⟩

/-- At most three spaces, three or more backticks, and then only spaces and tabs. -/
def IsFence (line : List Char) : Prop :=
  ∃ indentation length blanks, indentation ≤ 3 ∧ 3 ≤ length ∧
    (∀ c ∈ blanks, isSpaceOrTab c = true) ∧
    line = List.replicate indentation ' ' ++ (List.replicate length '`' ++ blanks)

/-- The lines that close a block of code are its fences. -/
theorem isFence_iff : IsFence line ↔
    (Cursor.ofLine line).indentation < BlockStart.codeIndentation ∧
      Leaf.isClosingFence '`' 3 (Cursor.ofLine line).text = true := by
  have hindentation : (Cursor.ofLine line).indentation = Cursor.widthFrom 0 line := Nat.zero_add _
  have htext : (Cursor.ofLine line).text = line.dropWhile isSpaceOrTab := rfl
  rw [hindentation, htext, Leaf.isClosingFence_iff (by decide), BlockStart.codeIndentation]
  constructor
  · rintro ⟨n, length, blanks, hn, hlength, hblanks, rfl⟩
    have hflush : Flush (List.replicate length '`' ++ blanks) := by
      obtain ⟨more, rfl⟩ := Nat.exists_eq_add_of_le' hlength
      exact fun c hc => Option.some.inj hc ▸ by decide
    rw [Cursor.widthFrom_replicate_append hflush,
      List.dropWhile_append_of_pos (by simp [isSpaceOrTab]), hflush.dropWhile_eq]
    exact ⟨Nat.lt_succ_of_le hn, length, blanks, hlength, hblanks, rfl⟩
  · rintro ⟨hwidth, length, blanks, hlength, hblanks, hfence⟩
    rw [← Nat.zero_add (Cursor.widthFrom 0 line)] at hwidth
    obtain ⟨n, hn, hline⟩ := Cursor.eq_replicate_append hwidth
    exact ⟨n, length, blanks, hn, hlength, hblanks, hfence ▸ hline⟩

instance (line : List Char) : Decidable (IsFence line) := decidable_of_iff _ isFence_iff.symm

/-- Three backticks begin a block of code, if there are no more behind them. -/
theorem BlockStart.find?_backticks {inParagraph mayBeLazy mayOpenItem : Bool} {cursor : Cursor}
    (hinfo : '`' ∉ info) (h : cursor.Before (List.replicate 3 '`' ++ info)) :
    find? inParagraph mayBeLazy mayOpenItem cursor = some (.fence '`' 3 0 info) := by
  have hline : List.replicate 3 '`' ++ info = '`' :: '`' :: '`' :: info := rfl
  have hflush : Flush ('`' :: '`' :: '`' :: info) := fun c hc => Option.some.inj hc ▸ by decide
  have hnone : info.takeWhile (· == '`') = [] := by
    cases info with
    | nil => rfl
    | cons c info =>
        have hc : c ≠ '`' := fun hc => hinfo (hc ▸ List.mem_cons_self)
        exact List.takeWhile_cons_of_neg (by simpa using hc)
  rw [hline] at h
  have hspaces : cursor.spaceCharacters = 0 := by
    rw [Cursor.spaceCharacters, h.left, h.rest]
    rfl
  have hfence : fence? cursor = some (.fence '`' 3 0 info) := by
    simp [fence?, h.text hflush, hnone, hspaces, hinfo]
  rw [find?, h.indentation hflush, h.text hflush, hfence]
  simp [codeIndentation, heading?]

namespace Outline

/-- An outline where the first line has begun a block of code and the lines after it have added a
text. -/
def inFence (info text : List Char) : Outline := empty.withLeaf (.fenced '`' 3 0 info text)

theorem addLine_opening (h : '`' ∉ info) :
    empty.addLine (List.replicate 3 '`' ++ info) = inFence info [] := by
  have hproceeds : empty.addLine (List.replicate 3 '`' ++ info) =
      empty.addBlocks false false 1 0 (.ofLine (List.replicate 3 '`' ++ info))
        (info.length + 4) := by
    simp [addLine, empty, unmatched, Container.continue?]
  rw [hproceeds, addBlocks, BlockStart.find?_backticks h (.ofLine _)]
  rfl

theorem addLine_inFence_of_isFence (h : IsFence line) :
    (inFence info text).addLine line = (inFence info text).closeLeaf false false := by
  have hclosing : Leaf.onLine (.ofLine line) (.fenced '`' 3 0 info text) = .closing := by
    rw [Leaf.onLine, if_pos (isFence_iff.mp h)]
  rw [addLine]
  simp [inFence, withLeaf, hclosing, empty, unmatched, Container.continue?]

theorem addLine_inFence (h : ¬ IsFence line) :
    (inFence info text).addLine line = inFence info (text ++ line ++ ['\n']) := by
  have hinside :
      Leaf.onLine (.ofLine line) (.fenced '`' 3 0 info text) = .inside (.ofLine line) := by
    rw [Leaf.onLine, if_neg (h ∘ isFence_iff.mpr)]
    rfl
  have hremainder : (Cursor.ofLine line).remainder = line := rfl
  rw [addLine]
  simp [inFence, withLeaf, hinside, empty, unmatched, Container.continue?, hremainder]

/-- A line is a fence exactly if it closes the block. -/
theorem leaf_addLine_inFence :
    ((inFence info text).addLine line).leaf = none ↔ IsFence line := by
  constructor
  · intro hclosed
    by_contra h
    rw [addLine_inFence h] at hclosed
    cases hclosed
  · intro h
    rw [addLine_inFence_of_isFence h]
    rfl

theorem foldl_addLine_inFence (h : ∀ line ∈ lines, ¬ IsFence line) :
    lines.foldl addLine (inFence info text) =
      inFence info (text ++ lines.flatMap (· ++ ['\n'])) := by
  induction lines generalizing text with
  | nil => rw [List.flatMap_nil, List.append_nil, List.foldl_nil]
  | cons line lines ih =>
      obtain ⟨hline, hlines⟩ := List.forall_mem_cons.mp h
      rw [List.foldl_cons, addLine_inFence hline, ih hlines, List.flatMap_cons,
        List.append_assoc text, List.append_assoc text]

/-- A block of code between fences of three backticks is open. -/
def IsInFence (o : Outline) : Prop :=
  ∃ info text, o.leaf = some (.fenced '`' 3 0 info text)

/-- Lines leave the block open, one after another, exactly if none of them is a fence. -/
theorem isInFence_take_iff :
    (∀ k ≤ lines.length, ((lines.take k).foldl addLine (inFence info text)).IsInFence) ↔
      ∀ line ∈ lines, ¬ IsFence line := by
  constructor
  · intro h
    induction lines generalizing text with
    | nil => simp
    | cons line lines ih =>
        have hline : ¬ IsFence line := by
          obtain ⟨info', text', hopen⟩ := h 1 (Nat.succ_le_succ (Nat.zero_le _))
          intro hfence
          have hclosed : ((inFence info text).addLine line).leaf = none :=
            leaf_addLine_inFence.mpr hfence
          rw [List.take_one, List.head?_cons, Option.toList_some, List.foldl_cons, List.foldl_nil,
            hclosed] at hopen
          cases hopen
        refine List.forall_mem_cons.mpr ⟨hline, @ih (text ++ line ++ ['\n']) fun k hk => ?_⟩
        rw [← addLine_inFence hline]
        exact h (k + 1) (Nat.succ_le_succ hk)
  · intro h k _
    have htake : ∀ line ∈ lines.take k, ¬ IsFence line :=
      fun line hline => h line (List.mem_of_mem_take hline)
    rw [foldl_addLine_inFence htake]
    exact ⟨_, _, rfl⟩

/-- Of some lines the first begins a block of code, and the one with an index ends it. -/
structure FenceEndsOn (lines : List (List Char)) (last : Nat) : Prop where
  isOpen : ∀ k, 0 < k → k ≤ last → ((lines.take k).foldl addLine empty).IsInFence
  isClosed : ((lines.take (last + 1)).foldl addLine empty).leaf = none

theorem fenceEndsOn_iff (hinfo : '`' ∉ info) :
    FenceEndsOn ((List.replicate 3 '`' ++ info) :: (lines ++ [List.replicate 3 '`']))
        (lines.length + 1) ↔
      ∀ line ∈ lines, ¬ IsFence line := by
  have htake (k : Nat) (hk : k ≤ lines.length) :
      (((List.replicate 3 '`' ++ info) :: (lines ++ [List.replicate 3 '`'])).take
        (k + 1)).foldl addLine empty = (lines.take k).foldl addLine (inFence info []) := by
    rw [List.take_succ_cons, List.foldl_cons, addLine_opening hinfo,
      List.take_append_of_le_length hk]
  rw [← @isInFence_take_iff info []]
  constructor
  · intro h k hk
    rw [← htake k hk]
    exact h.isOpen (k + 1) (Nat.succ_pos k) (Nat.succ_le_succ hk)
  · intro h
    refine ⟨fun k hpos hk => ?_, ?_⟩
    · obtain ⟨k, rfl⟩ := Nat.exists_eq_add_of_le' hpos
      rw [htake k (Nat.le_of_succ_le_succ hk)]
      exact h k (Nat.le_of_succ_le_succ hk)
    · have hfence : IsFence (List.replicate 3 '`') :=
        ⟨0, 3, [], by decide, by decide, by simp, by simp⟩
      rw [List.take_of_length_le (by simp), List.foldl_cons, addLine_opening hinfo,
        List.foldl_append, foldl_addLine_inFence (isInFence_take_iff.mp h), List.foldl_cons,
        List.foldl_nil]
      exact leaf_addLine_inFence.mpr hfence

end Outline

/-! ### Written code -/

/-- The reader takes the code that a text begins with, if no run of backticks was met before. -/
theorem Reading.code_empty (allowance : Nat) (s : List Char) :
    ∃ backticks, (Reading.empty allowance).code s =
      { Reading.empty allowance with backticks }.addFound (s.takeWhile (· == '`'))
        (s.dropWhile (· == '`')) (codeAt? s) := by
  have hrest : s.drop (s.takeWhile (· == '`')).length = s.dropWhile (· == '`') := by
    have hsplit := List.prefix_iff_eq_append.mp (List.takeWhile_prefix (l := s) (· == '`'))
    exact List.append_cancel_left (hsplit.trans List.takeWhile_append_dropWhile.symm)
  rw [Reading.code, List.span_eq_takeWhile_dropWhile, codeAt?, hrest]
  exact ⟨_, rfl⟩

section Written

variable {bullet : Char} {stack : List Marker} {siblings : Siblings} {n : Node}

theorem written_code (h : n.name = Kind.code.name) :
    written bullet stack siblings n = codeSpan n.textContent :=
  written_of_node h rfl

theorem written_codeBlock (h : n.name = Kind.codeBlock.name) : written bullet stack siblings n =
    "```" ++ (n.string? "lang").getD "" ++ "\n" ++ n.textContent ++ "\n```" :=
  written_of_node h rfl

/-- A block is written as a line with the language, the lines of the text and a fence. -/
theorem sourceLines_written (h : n.name = Kind.codeBlock.name)
    (hlanguage : ∀ c ∈ ((n.string? "lang").getD "").toList, c ≠ '\n' ∧ c ≠ '\r') :
    Outline.sourceLines [] (written bullet stack siblings n).toList =
      (List.replicate 3 '`' ++ ((n.string? "lang").getD "").toList.map Outline.shown) ::
        (Outline.sourceLines [] (n.textContent.toList ++ ['\n']) ++ [List.replicate 3 '`']) := by
  have hopening : ∀ c ∈ List.replicate 3 '`' ++ ((n.string? "lang").getD "").toList,
      c ≠ '\n' ∧ c ≠ '\r' := by
    refine List.forall_mem_append.mpr ⟨fun c hc => ?_, hlanguage⟩
    obtain rfl := List.eq_of_mem_replicate hc
    decide
  have htext : (written bullet stack siblings n).toList =
      (List.replicate 3 '`' ++ ((n.string? "lang").getD "").toList) ++
        '\n' :: (n.textContent.toList ++ '\n' :: List.replicate 3 '`') := by
    rw [written_codeBlock h]
    simp
  rw [htext, Outline.sourceLines_append_shown [] _ hopening,
    Outline.sourceLines_lineFeed, Outline.sourceLines_append_lineFeed, List.append_nil,
    List.reverse_reverse, List.map_append]
  rfl

end Written

/-- The span of code is read as this code exactly if no run of backticks in it is as long as the run
around code with backticks, and it is not padded like such code without having backticks. A block of
code ends on the last line that is written for it exactly if no line of its text is a fence, if the
name of its language can stand on the opening line. -/
theorem written_code_read_iff (bullet : Char) (stack : List Marker) (siblings : Siblings)
    (n : Node) :
    (n.name = Kind.code.name → n.textContent ≠ "" →
      (∀ c ∈ n.textContent.toList, c ≠ '\n' ∧ c ≠ '\r') →
      (codeAt? (written bullet stack siblings n).toList = some (.code n.textContent, []) ↔
        SpansItself n.textContent)) ∧
    (n.name = Kind.codeBlock.name →
      (∀ c ∈ ((n.string? "lang").getD "").toList, c ≠ '`' ∧ c ≠ '\n' ∧ c ≠ '\r') →
      let lines := Outline.sourceLines [] (written bullet stack siblings n).toList
      (Outline.FenceEndsOn lines (lines.length - 1) ↔
        ∀ line ∈ Outline.sourceLines [] (n.textContent.toList ++ ['\n']), ¬ IsFence line)) := by
  constructor
  · intro hname hne hline
    have hfeed : '\n' ∉ n.textContent.toList := fun hmem => (hline _ hmem).1 rfl
    rw [written_code hname]
    exact codeAt?_codeSpan_iff hne hfeed
  · intro hname hlanguage lines
    have hinfo : '`' ∉ ((n.string? "lang").getD "").toList.map Outline.shown := by
      intro hmem
      obtain ⟨c, hc, hshown⟩ := List.mem_map.mp hmem
      exact (hlanguage c hc).1 (Outline.eq_of_shown_eq hshown)
    have hlines : lines = _ := sourceLines_written hname fun c hc => (hlanguage c hc).2
    rw [hlines, List.length_cons, List.length_append]
    exact Outline.fenceEndsOn_iff hinfo

theorem written_code_read_iff_short :
    let code : Node := Kind.code.node [.text "a`b"]
    let block : Node := Kind.codeBlock.node [.text "a```\n    ```"]
    let lines := Outline.sourceLines [] (written '-' [] .root block).toList
    codeAt? (written '-' [] .root code).toList = some (.code code.textContent, []) ∧
      Outline.FenceEndsOn lines (lines.length - 1) := by
  intro code block lines
  have hcode : code.textContent.toList = ['a', '`', 'b'] := by decide
  have hline : ∀ c ∈ code.textContent.toList, c ≠ '\n' ∧ c ≠ '\r' := by
    rw [hcode]
    simp
  have hlanguage : ((block.string? "lang").getD "").toList = [] := by decide
  have hopening : ∀ c ∈ ((block.string? "lang").getD "").toList,
      c ≠ '`' ∧ c ≠ '\n' ∧ c ≠ '\r' := by
    rw [hlanguage]
    exact nofun
  constructor
  · exact ((written_code_read_iff '-' [] .root code).1 rfl (by decide) hline).mpr
      ⟨by decide, by decide⟩
  · exact ((written_code_read_iff '-' [] .root block).2 rfl hopening).mpr (by decide)

/-- Two backticks in code end its span, spaces around code are taken for padding, and a fence in a
block ends it. -/
theorem written_code_not_kept :
    let code : Node := Kind.code.node [.text "a``b"]
    let padded : Node := Kind.code.node [.text " a "]
    let block : Node := Kind.codeBlock.node [.text "```"]
    let lines := Outline.sourceLines [] (written '-' [] .root block).toList
    codeAt? (written '-' [] .root code).toList = some (.code " a", "b ``".toList) ∧
      codeAt? (written '-' [] .root padded).toList = some (.code "a", []) ∧
      ¬ Outline.FenceEndsOn lines (lines.length - 1) := by
  intro code padded block lines
  refine ⟨?code, ?padded, ?block⟩
  case code =>
    have hclosing : Verbatim.closingRun? '`' 2 code.textContent.toList = some (['a'], ['b']) := by
      decide
    have hread : String.ofList (Verbatim.normalize [' ', 'a']) = " a" := by decide
    have hrest : 'b' :: " ``".toList = "b ``".toList := by decide
    rw [written_code rfl, codeAt?_codeSpan_of_mem (by decide) (by decide), hclosing]
    simp only [List.singleton_append, hread, hrest]
  case padded =>
    have hkept : String.ofList (Verbatim.normalize padded.textContent.toList) = "a" := by decide
    rw [written_code rfl, codeAt?_codeSpan_of_notMem (by decide) (by decide), hkept]
  case block =>
    intro h
    have hlanguage : ((block.string? "lang").getD "").toList = [] := by decide
    have htext : Outline.sourceLines [] (block.textContent.toList ++ ['\n']) =
        [List.replicate 3 '`'] := by decide
    have hlines : lines = _ := sourceLines_written rfl (by rw [hlanguage]; exact nofun)
    rw [hlines, hlanguage, htext] at h
    exact absurd ((Outline.fenceEndsOn_iff List.not_mem_nil).mp h) (by decide)

end DocBridge.Markdown

import DocBridge.Proofs.Markdown.Passages
import DocBridge.Proofs.Tree.Leaves

/-!
# Headings of several lines

A line under a paragraph makes a heading of all its lines, but a heading is written with hashes,
which take one line. So what is written for a heading of several lines of prose is read as a heading
of the first line and a paragraph of the others, and such a heading comes back only if it has no
others.
-/

namespace DocBridge.Markdown

open Text

variable {n : Nat} {cursor : Cursor} {leaf : Leaf} {o : Outline}
  {levels : Levels} {first : Prose} {others : List Prose}

/-! ### Lines of a heading -/

/-- What a heading has under it. -/
inductive Underline where
  | double
  | single

namespace Underline

def mark : Underline → Char
  | double => '='
  | single => '-'

def level : Underline → {level : Nat // 1 ≤ level ∧ level ≤ 6}
  | double => ⟨1, by decide⟩
  | single => ⟨2, by decide⟩

/-- A line of at least one mark. -/
def line (u : Underline) (length : Nat) : String :=
  String.ofList (List.replicate (length + 1) u.mark)

theorem isContent_line (u : Underline) (length : Nat) : IsContent (u.line length) := by
  cases u <;> constructor <;> simp [line, mark, List.replicate_succ, Flush, isSpaceOrTab]

/-- Under a paragraph the line is an underline, not the mark of an item. -/
theorem find?_line (u : Underline) (length : Nat) (mayOpenItem : Bool)
    (h : cursor.Before (u.line length).toList) :
    BlockStart.find? true true mayOpenItem cursor = some (.underline u.level) := by
  have hflush := (u.isContent_line length).flush
  have hmarks : (u.line length).toList = u.mark :: List.replicate length u.mark := by
    rw [line, String.toList_ofList, List.replicate_succ]
  rw [BlockStart.find?, h.indentation hflush, h.text hflush, BlockStart.fence?, h.text hflush,
    hmarks]
  cases u <;> simp [mark, level, BlockStart.codeIndentation, BlockStart.heading?,
    Html.opening?, BlockStart.underline?]

end Underline

namespace Outline

theorem Holds.unmatched {line : String} (h : o.Holds levels leaf)
    (hlength : levels.length = n + 1) (hline : IsContent line) : ∃ cursor,
      unmatched o.leaf.isSome o.containers.reverse (.ofLine (quoted n line).toList) = (0, cursor) ∧
        cursor.Before line.toList := by
  obtain ⟨around, hrests, rfl⟩ := h
  obtain ⟨cursor, hunmatched, hcursor⟩ := unmatched_of_stands hrests.stands true hline n
  rw [hlength, Nat.sub_self] at hunmatched hcursor
  exact ⟨cursor, hunmatched, hcursor⟩

/-- A line that is not empty may go on with a paragraph at its depth. -/
theorem Holds.addLine_paragraph {line : String} {text : List Char}
    (h : o.Holds levels (.paragraph text)) (hlength : levels.length = n + 1)
    (hline : IsContent line) (hne : line.toList ≠ []) : ∃ cursor bound,
      o.addLine (quoted n line).toList = o.addBlocks true false 1 0 cursor (bound + 1) ∧
        cursor.Before line.toList := by
  obtain ⟨cursor, hunmatched, hcursor⟩ := h.unmatched hlength hline
  have hblank : cursor.isBlank = false := hcursor.isBlank_eq_false hline.flush hne
  refine ⟨cursor, (quoted n line).toList.length, ?_, hcursor⟩
  obtain ⟨around, -, rfl⟩ := h
  rw [addLine, hunmatched]
  simp only [withLeaf, Leaf.onLine, hblank]
  rfl

/-- A line of prose goes on with a paragraph. -/
theorem Holds.addLine_prose (h : o.Holds levels (.paragraph (proseText first others ++ ['\n'])))
    (hlength : levels.length = n + 1) (p : Prose) :
    (o.addLine (quoted n p.text).toList).Holds levels
      (.paragraph (proseText first (others ++ [p]) ++ ['\n'])) := by
  obtain ⟨cursor, bound, hadd, hcursor⟩ :=
    h.addLine_paragraph hlength (isContent_prose p) p.chars_ne_nil
  have hprose : cursor.Before p.chars := hcursor
  have hblank : cursor.isBlank = false := hprose.isBlank_eq_false (flush_prose p) p.chars_ne_nil
  obtain ⟨around, hrests, rfl⟩ := h
  refine ⟨around, hrests, ?_⟩
  rw [hadd, addBlocks, BlockStart.find?_prose hprose]
  simp only [hblank, addText, withLeaf, hprose.text (flush_prose p)]
  simp [proseText]

/-- The line under a paragraph makes a heading of it. -/
theorem Holds.addLine_underline
    (h : o.Holds levels (.paragraph (proseText first others ++ ['\n'])))
    (hlength : levels.length = n + 1) (u : Underline) (length : Nat) :
    (o.addLine (quoted n (u.line length)).toList).Holds levels
      (.heading u.level (proseText first others ++ ['\n'])) := by
  have hne : (u.line length).toList ≠ [] := by simp [Underline.line]
  obtain ⟨cursor, bound, hadd, hcursor⟩ :=
    h.addLine_paragraph hlength (u.isContent_line length) hne
  obtain ⟨c, rest, htext, hc⟩ := exists_proseText_cons first others
  have htake : Reference.take [] (c :: (rest ++ ['\n'])) = ([], c :: (rest ++ ['\n'])) :=
    Reference.take_of_isAlpha [] hc
  obtain ⟨around, hrests, rfl⟩ := h
  refine ⟨around, hrests, ?_⟩
  rw [hadd, addBlocks]
  simp only [withLeaf, Bool.and_true, u.find?_line length _ hcursor]
  rw [underline, htext, List.cons_append]
  simp only [hrests.references, htake]
  simp [isSpacing_of_isAlpha hc, withLeaf]

/-- Behind a heading prose begins a paragraph. -/
theorem Holds.addLine_prose_behind {level : Nat} {text : List Char}
    (h : o.Holds levels (.heading level text)) (hlength : levels.length = n + 1) (p : Prose) :
    (o.addLine (quoted n p.text).toList).Holds (levels.add [.heading level text])
      (.paragraph (proseText p [] ++ ['\n'])) := by
  obtain ⟨cursor, hunmatched, hcursor⟩ := h.unmatched hlength (isContent_prose p)
  have hshows := h.shows_heading
  obtain ⟨around, -, rfl⟩ := h
  have hproceeds : (around.withLeaf (.heading level text)).addLine (quoted n p.text).toList =
      (around.withLeaf (.heading level text)).addBlocks false false 1 0 cursor
        ((quoted n p.text).toList.length + 1) := by
    rw [addLine, hunmatched]
    rfl
  rw [hproceeds]
  exact hshows.addBlocks_prose (by simp [withLeaf]) hcursor _ _ _

/-- Lines of prose all go on with a paragraph. -/
theorem Holds.addLines_prose (h : o.Holds levels (.paragraph (proseText first others ++ ['\n'])))
    (hlength : levels.length = n + 1) (more : List Prose) :
    (o.addLines ((more.map Prose.text).map (quoted n))).Holds levels
      (.paragraph (proseText first (others ++ more) ++ ['\n'])) := by
  induction more generalizing o others with
  | nil =>
      rw [List.append_nil]
      exact h
  | cons p more ih =>
      have hmore := ih (h.addLine_prose hlength p)
      rw [List.append_assoc] at hmore
      exact hmore

end Outline

/-! ### Trees of lines -/

/-- Lines of prose with soft breaks between them. -/
def proseChildren (first : Prose) (others : List Prose) : List Child :=
  .text first.text :: others.flatMap fun p => [.node Kind.softBreak.name ∅ [], .text p.text]

def headingOf (level : Nat) (first : Prose) (others : List Prose) : Child :=
  .node Kind.header.name (Attributes.empty.insert "level" (.natural level))
    (proseChildren first others)

/-- The paragraph of some lines, if there are any. -/
def paraOf : List Prose → List Child
  | [] => []
  | first :: others => [.node Kind.para.name ∅ (proseChildren first others)]

theorem toChildren_proseInlines (first : Prose) (others : List Prose) :
    Inline.toChildren (proseInlines first others) = proseChildren first others := by
  induction others generalizing first with
  | nil => rfl
  | cons next others ih =>
      have hinlines : proseInlines first (next :: others) =
          .text first.text :: .softBreak :: proseInlines next others := rfl
      rw [hinlines, Inline.toChildren, Inline.toChildren, ih]
      rfl

theorem paragraphNode_proseInlines (first : Prose) (others : List Prose) :
    paragraphNode false (proseInlines first others) =
      .node Kind.para.name ∅ (proseChildren first others) := by
  unfold paragraphNode
  split
  · next hmath => cases hmath
  · rw [toChildren_proseInlines]
    rfl

theorem leavesOfAll_proseChildren (first : Prose) (others : List Prose) :
    ∀ s ∈ Child.leavesOfAll (proseChildren first others), IsProse s := by
  induction others generalizing first with
  | nil => exact List.forall_mem_singleton.mpr first.isProse
  | cons next others ih => exact List.forall_mem_cons.mpr ⟨first.isProse, ih next⟩

theorem isProse_leaves_heading (level : Nat) (first : Prose) (others : List Prose) :
    ∀ s ∈ (Kind.root.node [headingOf level first others]).leaves, IsProse s := by
  have hleaves : (Kind.root.node [headingOf level first others]).leaves =
      Child.leavesOfAll (proseChildren first others) := List.append_nil _
  rw [hleaves]
  exact leavesOfAll_proseChildren first others

/-! ### Reading -/

/-- The text of lines of prose with a line under them. -/
def underlined (u : Underline) (length : Nat) (first : Prose) (others : List Prose) : String :=
  joinLines ((first :: others).map Prose.text ++ [u.line length])

/-- The text of lines of prose with hashes before them. -/
def hashed (level : Nat) (first : Prose) (others : List Prose) : String :=
  joinLines (String.ofList (BlockStart.headingLine level first.chars) :: others.map Prose.text)

theorem isKept_texts (others : List Prose) :
    ∀ line ∈ others.map Prose.text, ∀ c ∈ line.toList, IsKept c :=
  List.forall_mem_map.mpr fun p _ => isKept_prose p

theorem outline_underlined (u : Underline) (length : Nat) (first : Prose) (others : List Prose) :
    Outline.read (underlined u length first others) =
      ([.heading u.level (proseText first others ++ ['\n'])], []) := by
  have hkept : ∀ c ∈ (u.line length).toList, IsKept c := by
    rw [Underline.line, String.toList_ofList]
    intro c hc
    obtain rfl := List.eq_of_mem_replicate hc
    cases u <;> decide
  rw [underlined, Outline.read_joinLines (by simp)]
  · have hfirst := Outline.rests_empty.addLine_prose (n := 0) (by simp) first
    rw [Levels.openTo_of_length (by rfl)] at hfirst
    have hothers := hfirst.addLines_prose (n := 0) rfl others
    have hheading := hothers.addLine_underline (n := 0) rfl u length
    rw [map_quoted_zero, List.nil_append] at hheading
    rw [List.map_cons, List.cons_append, Outline.addLines_cons, Outline.addLines_append]
    exact (hheading.shows_heading.showsAt rfl).finish
  · exact List.forall_mem_append.mpr
      ⟨isKept_texts (first :: others), List.forall_mem_singleton.mpr hkept⟩
  · intro line hline
    rw [List.getLast?_concat] at hline
    obtain rfl := Option.some.inj hline
    simp [Underline.line]

/-- The block of a paragraph of some lines, if there are any. -/
def paragraphOf : List Prose → List (Block (List Char))
  | [] => []
  | first :: others => [.paragraph (proseText first others ++ ['\n'])]

theorem outline_hashed (level : {level : Nat // 1 ≤ level ∧ level ≤ 6}) (first : Prose)
    (others : List Prose) : Outline.read (hashed level first others) =
      (.heading level first.chars :: paragraphOf others, []) := by
  have hkept : ∀ c ∈ (String.ofList (BlockStart.headingLine level first.chars)).toList,
      IsKept c := by
    rw [String.toList_ofList]
    exact isKept_headingLine level first
  have hheading := Outline.rests_empty.addLine_heading (n := 0) (by simp) level.2 first
  rw [Levels.openTo_of_length (by rfl)] at hheading
  rw [hashed, Outline.read_joinLines (by simp)
    (List.forall_mem_cons.mpr ⟨hkept, isKept_texts others⟩)]
  · cases others with
    | nil => exact (hheading.shows_heading.showsAt rfl).finish
    | cons next rest =>
        have hnext := hheading.addLine_prose_behind rfl next
        have hrest := hnext.addLines_prose (n := 0) rfl rest
        rw [map_quoted_zero, List.nil_append] at hrest
        rw [Outline.addLines_cons, List.map_cons, Outline.addLines_cons]
        exact (hrest.shows_paragraph.showsAt rfl).finish
  · intro line hline
    rcases List.mem_cons.mp (List.mem_of_getLast? hline) with rfl | hother
    · simp [BlockStart.headingLine]
    · obtain ⟨p, -, rfl⟩ := List.mem_map.mp hother
      exact p.chars_ne_nil

theorem read_underlined (u : Underline) (length : Nat) (first : Prose) (others : List Prose) :
    read (underlined u length first others) = Kind.root.node [headingOf u.level first others] := by
  rw [read_of_outline [.heading u.level (proseInlines first others)]
    (outline_underlined u length first others)]
  · rw [Document.tree, Block.toChildren, Block.toChild?, toChildren_proseInlines]
    rfl
  · intro allowance
    rw [Block.traverseAll_cons, Block.traverse_heading,
      readInlines_proseText [] first others (.inr rfl)]
    rfl

theorem read_hashed (level : {level : Nat // 1 ≤ level ∧ level ≤ 6}) (first : Prose)
    (others : List Prose) : read (hashed level first others) =
      Kind.root.node (headingOf level first [] :: paraOf others) := by
  have houtline := outline_hashed level first others
  cases others with
  | nil =>
      rw [read_of_outline [.heading level (proseInlines first [])] houtline]
      · rw [Document.tree, Block.toChildren, Block.toChild?, toChildren_proseInlines]
        rfl
      · intro allowance
        rw [paragraphOf, Block.traverseAll_cons, Block.traverse_heading, readInlines_chars]
        rfl
  | cons next rest =>
      rw [read_of_outline [.heading level (proseInlines first []),
        .paragraph (proseInlines next rest)] houtline]
      · rw [Document.tree, Block.toChildren, Block.toChild?, toChildren_proseInlines,
          Block.toChildren, Block.toChild?, paragraphNode_proseInlines]
        rfl
      · intro allowance
        rw [paragraphOf, Block.traverseAll_cons, Block.traverse_heading, readInlines_chars,
          Block.traverseAll_cons, Block.traverse_paragraph,
          readInlines_proseText [] next rest (.inr rfl)]
        rfl

/-! ### Writing -/

section Writing

open Writer

variable {bullet : Char} {stack : List Marker}

theorem concat_mapIdx_proseChildren (first : Prose) (others : List Prose)
    (places : Nat → Siblings) :
    concat ((proseChildren first others).mapIdx fun i c => written bullet stack (places i) c) =
      joinLines ((first :: others).map Prose.text) := by
  induction others generalizing first places with
  | nil => exact (concat_singleton _).trans String.intercalate_singleton.symm
  | cons next others ih =>
      have hchildren : proseChildren first (next :: others) = .text first.text ::
          .node Kind.softBreak.name ∅ [] :: proseChildren next others := rfl
      have hbreak (siblings : Siblings) :
          written bullet stack siblings (.node Kind.softBreak.name ∅ []) = "\n" :=
        written_softBreak (n := Kind.softBreak.node []) rfl
      have hlines : joinLines ((first :: next :: others).map Prose.text) =
          first.text ++ "\n" ++ joinLines ((next :: others).map Prose.text) :=
        String.intercalate_cons_cons
      have hrest := ih next fun i => places (i + 1 + 1)
      rw [concat] at hrest
      rw [hchildren, List.mapIdx_cons, List.mapIdx_cons, hbreak, concat, String.join_cons,
        String.join_cons, hrest, hlines, String.append_assoc]
      rfl

theorem written_heading (level : {level : Nat // 1 ≤ level ∧ level ≤ 6}) (first : Prose)
    (others : List Prose) (siblings : Siblings) :
    written bullet stack siblings (headingOf level first others) = hashed level first others := by
  have hlines : concat (texts bullet stack (proseChildren first others)) =
      joinLines ((first :: others).map Prose.text) :=
    concat_mapIdx_proseChildren first others _
  refine (written_header (n := ⟨Kind.header.name, Attributes.empty.insert "level" (.natural level),
    proseChildren first others⟩) rfl).trans ?_
  rw [headingMark_eq level.2, hlines, hashed, ofList_headingLine, joinLines_append_cons]
  rfl

theorem write_heading (bullet : Char) (level : {level : Nat // 1 ≤ level ∧ level ≤ 6})
    (first : Prose) (others : List Prose) :
    write bullet (Kind.root.node [headingOf level first others]) = hashed level first others := by
  have htexts : texts bullet [] [headingOf level first others] = [hashed level first others] :=
    congrArg (fun text => [text]) (written_heading level first others _)
  rw [write_eq_written, written_root rfl, Kind.node, htexts]
  exact String.intercalate_singleton

end Writing

/-! ### The round trip -/

/-- A heading with a line under it, all the text of which is prose, comes back from what is written
for it exactly if it has one line. Of several lines the first comes back as a heading and the others
as a paragraph. -/
theorem read_write_underlined (bullet : Char) (u : Underline) (length : Nat) (first : Prose)
    (others : List Prose) :
    let t := read (underlined u length first others)
    t = Kind.root.node [headingOf u.level first others] ∧ (∀ s ∈ t.leaves, IsProse s) ∧
      read (write bullet t) = Kind.root.node (headingOf u.level first [] :: paraOf others) ∧
      ((read (write bullet t)).same t = true ↔ others = []) := by
  intro t
  have htree : t = Kind.root.node [headingOf u.level first others] :=
    read_underlined u length first others
  have hback : read (write bullet t) =
      Kind.root.node (headingOf u.level first [] :: paraOf others) := by
    rw [htree, write_heading, read_hashed]
  refine ⟨htree, ?_, hback, ?_⟩
  · rw [htree]
    exact isProse_leaves_heading u.level first others
  · rw [hback, htree]
    cases others with
    | nil => exact iff_of_true (Passage.same_tree [.heading u.level first]) rfl
    | cons next rest =>
        refine iff_of_false ?_ (List.cons_ne_nil _ _)
        simp [Node.same, Kind.node, Child.ofNode, Child.same, Child.allSame, paraOf]

/-- Not every text whose leaves are prose has a tree that comes back. -/
theorem exists_prose_not_read_write : ¬∀ source, (∀ s ∈ (read source).leaves, IsProse s) →
    (read (write '-' (read source))).same (read source) = true := by
  intro h
  have hleaves : (read "a\nb\n===").leaves = ["a", "b"] := by decide +kernel
  have hprose : ∀ s ∈ ["a", "b"], IsProse s := by decide
  have hback : (read (write '-' (read "a\nb\n==="))).same (read "a\nb\n===") = false := by
    decide +kernel
  have hsame := h "a\nb\n===" (hleaves ▸ hprose)
  rw [hback] at hsame
  cases hsame

end DocBridge.Markdown

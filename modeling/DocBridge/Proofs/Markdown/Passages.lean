import DocBridge.Markdown.Reader
import DocBridge.Proofs.Markdown.Layout
import DocBridge.Proofs.Markdown.Lines
import DocBridge.Proofs.Markdown.Quotes
import DocBridge.Proofs.Tree.Sameness

/-!
# Passages are read back

Paragraphs and headings of prose and block quotes of such passages are written as lines. Each line
of a quote has the brackets of all quotes around it, and a blank line that has them too separates
two passages. Reading goes by induction over the passages: at every depth it ends with the blocks of
what was read once the quotes deeper down are closed.
-/

namespace DocBridge.Markdown

open Text

variable {n : Nat} {line : String} {ls : List String} {s : List Char} {c : Char} {o : Outline}
  {levels : Levels}

/-! ### Lines of a source -/

/-- A character that a line of a source may have and that is kept as it is. -/
def IsKept (c : Char) : Prop := c ≠ '\n' ∧ c ≠ '\r' ∧ c ≠ '\x00' ∧ c ≠ '\uFEFF'

instance (c : Char) : Decidable (IsKept c) :=
  inferInstanceAs (Decidable (c ≠ '\n' ∧ c ≠ '\r' ∧ c ≠ '\x00' ∧ c ≠ '\uFEFF'))

theorem isKept_of_isAlpha (hc : c.isAlpha = true) : IsKept c :=
  ⟨ne_of_isAlpha hc (by decide), ne_of_isAlpha hc (by decide), ne_of_isAlpha hc (by decide),
    ne_of_isAlpha hc (by decide)⟩

theorem isKept_prose (p : Prose) : ∀ c ∈ p.chars, IsKept c := by
  intro c hc
  rcases p.isAlpha_or_eq_space c hc with h | rfl
  · exact isKept_of_isAlpha h
  · decide

theorem isKept_quoteLine (h : ∀ c ∈ line.toList, IsKept c) :
    ∀ c ∈ (quoteLine line).toList, IsKept c := by
  rw [toList_quoteLine]
  refine List.forall_mem_cons.mpr ⟨by decide, ?_⟩
  split
  · simp
  · exact List.forall_mem_cons.mpr ⟨by decide, h⟩

theorem isKept_headingLine (level : Nat) (p : Prose) :
    ∀ c ∈ BlockStart.headingLine level p.chars, IsKept c := by
  intro c hc
  rcases List.mem_append.mp hc with hhash | hrest
  · obtain rfl := List.eq_of_mem_replicate hhash
    decide
  · exact List.forall_mem_cons.mpr ⟨by decide, isKept_prose p⟩ c hrest

namespace Outline

theorem sourceLines_append (acc rest : List Char) (hs : ∀ c ∈ s, IsKept c) :
    sourceLines acc (s ++ rest) = sourceLines (s.reverse ++ acc) rest := by
  have hshown : s.map shown = s :=
    (List.map_congr_left fun c hc => if_neg (hs c hc).2.2.1).trans (List.map_id s)
  rw [sourceLines_append_shown acc rest fun c hc => ⟨(hs c hc).1, (hs c hc).2.1⟩, hshown]

/-- The lines that a text is made of are read, when something is in the last. -/
theorem sourceLines_joinLines (first : String) (rest : List String)
    (hkept : ∀ line ∈ first :: rest, ∀ c ∈ line.toList, IsKept c)
    (hlast : ∀ line ∈ (first :: rest).getLast?, line.toList ≠ []) :
    sourceLines [] (joinLines (first :: rest)).toList = (first :: rest).map String.toList := by
  induction rest generalizing first with
  | nil =>
      have hne : first.toList ≠ [] := hlast first rfl
      have hline := sourceLines_append [] [] (hkept first List.mem_cons_self)
      rw [joinLines, String.intercalate_singleton]
      simpa [sourceLines, hne] using hline
  | cons next rest ih =>
      obtain ⟨hfirst, hrest⟩ := List.forall_mem_cons.mp hkept
      rw [List.getLast?_cons_cons] at hlast
      rw [joinLines, String.intercalate_cons_cons, String.toList_append, String.toList_append,
        List.append_assoc, sourceLines_append _ _ hfirst]
      have hfeed : "\n".toList = ['\n'] := rfl
      rw [hfeed, List.singleton_append, sourceLines_lineFeed, ← joinLines, ih next hrest hlast]
      simp

/-- An outline after some lines. -/
def addLines (o : Outline) (ls : List String) : Outline :=
  ls.foldl (fun o line => o.addLine line.toList) o

theorem addLines_cons (o : Outline) (line : String) (ls : List String) :
    o.addLines (line :: ls) = (o.addLine line.toList).addLines ls := rfl

theorem addLines_append (o : Outline) (ls others : List String) :
    o.addLines (ls ++ others) = (o.addLines ls).addLines others := List.foldl_append

theorem byteOrderMark_notMem_joinLines (hkept : ∀ line ∈ ls, ∀ c ∈ line.toList, IsKept c) :
    '\uFEFF' ∉ (joinLines ls).toList := by
  rw [joinLines]
  induction ls with
  | nil => simp
  | cons first rest ih =>
      obtain ⟨hfirst, hrest⟩ := List.forall_mem_cons.mp hkept
      have hmark : '\uFEFF' ∉ first.toList := fun h => (hfirst _ h).2.2.2 rfl
      cases rest with
      | nil => simpa using hmark
      | cons next rest =>
          rw [String.intercalate_cons_cons]
          simpa [hmark] using ih hrest

theorem read_joinLines (hne : ls ≠ []) (hkept : ∀ line ∈ ls, ∀ c ∈ line.toList, IsKept c)
    (hlast : ∀ line ∈ ls.getLast?, line.toList ≠ []) :
    read (joinLines ls) = (empty.addLines ls).finish := by
  obtain ⟨first, rest, rfl⟩ := List.exists_cons_of_ne_nil hne
  have hmark := byteOrderMark_notMem_joinLines hkept
  have hlines := sourceLines_joinLines first rest hkept hlast
  unfold read
  split
  · next hcons => simp [hcons] at hmark
  · dsimp only
    rw [hlines, List.foldl_map]
    rfl

end Outline

/-! ### Blocks whose text is read -/

section Traverse

variable {α β σ : Type} (f : α → StateM σ β) (content : α) (state : σ)

theorem Block.traverse_paragraph : Block.traverse f (.paragraph content) state =
    (f content state).map .paragraph id := rfl

theorem Block.traverse_heading (level : Nat) : Block.traverse f (.heading level content) state =
    (f content state).map (.heading level) id := rfl

theorem Block.traverse_quote (bs : List (Block α)) : Block.traverse f (.quote bs) state =
    (Block.traverseAll f bs state).map .quote id := rfl

theorem Block.traverseAll_cons (b : Block α) (bs : List (Block α)) :
    Block.traverseAll f (b :: bs) state =
      (Block.traverseAll f bs (Block.traverse f b state).2).map
        (List.cons (Block.traverse f b state).1) id := rfl

end Traverse

theorem read_of_outline {source : String} {blocks : List (Block (List Char))} (document : Document)
    (houtline : Outline.read source = (blocks, []))
    (htext : ∀ allowance, Block.traverseAll (readInlines []) blocks allowance =
      (document, allowance)) : read source = document.tree := by
  rw [read, readDocument, houtline]
  dsimp only
  rw [htext]

/-! ### Headings that are written -/

theorem Writer.ofList_headingLine (level : Nat) (p : Prose) :
    String.ofList (BlockStart.headingLine level p.chars) =
      String.ofList (List.replicate level '#') ++ " " ++ p.text := by
  rw [← String.toList_inj]
  simp [BlockStart.headingLine, Prose.chars]

theorem Writer.headingMark_eq {level : Nat} (hlevel : 1 ≤ level ∧ level ≤ 6) (below : List Child) :
    headingMark ⟨Kind.header.name, Attributes.empty.insert "level" (.natural level), below⟩ =
      String.ofList (List.replicate level '#') := by
  have hfound : Node.natural? ⟨Kind.header.name, Attributes.empty.insert "level" (.natural level),
      below⟩ "level" = some level := by
    rw [Node.natural?, Node.attribute?, Attributes.find?, Attributes.insert,
      Dictionary.find?_insert_self, Option.bind_some, Json.Value.natural?_eq_some_iff]
    have hsize : 6 < UInt64.size := by decide
    exact ⟨rfl, by omega⟩
  have hclamp : max 1 (min level 6) = level := by omega
  rw [headingMark, hfound, Option.getD_some, hclamp]

/-! ### Passages -/

/-- A paragraph or heading of prose, or a block quote of passages. -/
inductive Passage where
  | para (prose : Prose)
  | heading (level : {level : Nat // 1 ≤ level ∧ level ≤ 6}) (prose : Prose)
  | quote (passages : List Passage)

namespace Passage

mutual

/-- The passage in a tree. -/
def child : Passage → Child
  | para p => .node Kind.para.name ∅ [.text p.text]
  | heading level p =>
    .node Kind.header.name (Attributes.empty.insert "level" (.natural level)) [.text p.text]
  | quote passages => .node Kind.blockQuote.name ∅ (children passages)

def children : List Passage → List Child
  | [] => []
  | passage :: rest => child passage :: children rest

end

mutual

/-- The lines of a passage. -/
def lines : Passage → List String
  | para p => [p.text]
  | heading level p => [String.ofList (BlockStart.headingLine level p.chars)]
  | quote passages => (linesOfAll passages).map quoteLine

/-- The lines of passages with blank lines between them. Where there are none, a line is empty. -/
def linesOfAll : List Passage → List String
  | [] => [""]
  | passage :: rest => lines passage ++ linesBehind rest

/-- The lines of passages with a blank line before each. -/
def linesBehind : List Passage → List String
  | [] => []
  | passage :: rest => "" :: (lines passage ++ linesBehind rest)

end

mutual

/-- The block of a passage. A paragraph has a line feed at its end. -/
def block : Passage → Block (List Char)
  | para p => .paragraph (proseText p [] ++ ['\n'])
  | heading level p => .heading level p.chars
  | quote passages => .quote (blocks passages)

def blocks : List Passage → List (Block (List Char))
  | [] => []
  | passage :: rest => block passage :: blocks rest

end

/-! ### What is read from the lines -/

mutual

/-- Lines with brackets for quotes that need not be open yet. -/
theorem showsAt_lines : (passage : Passage) → ∀ {n : Nat} {o : Outline} {levels : Levels},
    o.Rests levels → levels.length ≤ n + 1 →
      (o.addLines ((lines passage).map (quoted n))).ShowsAt n
        ((levels.openTo n).add [block passage])
  | para p, n, o, levels, h, hn => by
      refine (h.addLine_prose hn p).shows_paragraph.showsAt ?_
      rw [Levels.length_add, Levels.length_openTo hn]
  | heading level p, n, o, levels, h, hn => by
      refine (h.addLine_heading hn level.2 p).shows_heading.showsAt ?_
      rw [Levels.length_add, Levels.length_openTo hn]
  | quote passages, n, o, levels, h, hn => by
      have hinside := showsAt_linesOfAll passages h (Nat.le_succ_of_le hn)
      rw [Levels.openTo_succ hn, Levels.add, List.nil_append] at hinside
      rw [lines, List.map_map]
      exact hinside.quote

theorem showsAt_linesOfAll : (passages : List Passage) → ∀ {n : Nat} {o : Outline}
    {levels : Levels}, o.Rests levels → levels.length ≤ n + 1 →
      (o.addLines ((linesOfAll passages).map (quoted n))).ShowsAt n
        ((levels.openTo n).add (blocks passages))
  | [], n, o, levels, h, hn => by
      rw [blocks, Levels.add_nil]
      exact (Outline.Shows.rests (h.addLine_blank hn)).showsAt (Levels.length_openTo hn)
  | passage :: rest, n, o, levels, h, hn => by
      have hrest := showsAt_linesBehind rest (showsAt_lines passage h hn)
      rw [Levels.add_add] at hrest
      rw [linesOfAll, List.map_append, Outline.addLines_append]
      exact hrest

theorem showsAt_linesBehind : (passages : List Passage) → ∀ {n : Nat} {o : Outline}
    {levels : Levels}, o.ShowsAt n levels →
      (o.addLines ((linesBehind passages).map (quoted n))).ShowsAt n
        (levels.add (blocks passages))
  | [], n, o, levels, h => by
      rw [blocks, Levels.add_nil]
      exact h
  | passage :: rest, n, o, levels, h => by
      have hlength := h.length_eq
      -- The blank line closes what the passages so far have left open deeper down.
      have hpassage := showsAt_lines passage h.addLine_blank (Nat.le_of_eq hlength)
      have hrest := showsAt_linesBehind rest hpassage
      rw [Levels.openTo_of_length hlength, Levels.add_add] at hrest
      rw [linesBehind, List.map_cons, List.map_append, Outline.addLines_cons,
        Outline.addLines_append]
      exact hrest

end

/-! ### Characters of the lines -/

mutual

theorem isKept_lines : (passage : Passage) → ∀ line ∈ lines passage, ∀ c ∈ line.toList, IsKept c
  | para p => List.forall_mem_singleton.mpr (isKept_prose p)
  | heading level p => by
      rw [lines, List.forall_mem_singleton, String.toList_ofList]
      exact isKept_headingLine level p
  | quote passages => by
      intro line hline
      obtain ⟨inner, hinner, rfl⟩ := List.mem_map.mp hline
      exact isKept_quoteLine (isKept_linesOfAll passages inner hinner)

theorem isKept_linesOfAll : (passages : List Passage) →
    ∀ line ∈ linesOfAll passages, ∀ c ∈ line.toList, IsKept c
  | [] => List.forall_mem_singleton.mpr (by simp)
  | passage :: rest =>
      List.forall_mem_append.mpr ⟨isKept_lines passage, isKept_linesBehind rest⟩

theorem isKept_linesBehind : (passages : List Passage) →
    ∀ line ∈ linesBehind passages, ∀ c ∈ line.toList, IsKept c
  | [] => by simp [linesBehind]
  | passage :: rest => List.forall_mem_cons.mpr ⟨by simp,
      List.forall_mem_append.mpr ⟨isKept_lines passage, isKept_linesBehind rest⟩⟩

end

mutual

theorem lines_ne_nil : (passage : Passage) → lines passage ≠ []
  | para _ | heading _ _ => List.cons_ne_nil _ _
  | quote passages => mt List.map_eq_nil_iff.mp (linesOfAll_ne_nil passages)

theorem linesOfAll_ne_nil : (passages : List Passage) → linesOfAll passages ≠ []
  | [] => List.cons_ne_nil _ _
  | passage :: _ => List.append_ne_nil_of_left_ne_nil (lines_ne_nil passage) _

end

/-- There is something in the last line of a passage. -/
theorem getLast?_lines (passage : Passage) :
    ∀ line ∈ (lines passage).getLast?, line.toList ≠ [] := by
  intro line hline
  cases passage with
  | para p =>
      obtain rfl := Option.some.inj hline
      exact p.chars_ne_nil
  | heading level p =>
      obtain rfl := Option.some.inj hline
      simp [BlockStart.headingLine]
  | quote passages =>
      rw [lines, List.getLast?_map] at hline
      obtain ⟨inner, -, rfl⟩ := Option.map_eq_some_iff.mp hline
      rw [toList_quoteLine]
      exact List.cons_ne_nil _ _

theorem getLast?_linesOfAll (passage : Passage) (rest : List Passage) :
    ∀ line ∈ (linesOfAll (passage :: rest)).getLast?, line.toList ≠ [] := by
  induction rest generalizing passage with
  | nil =>
      rw [linesOfAll, linesBehind, List.append_nil]
      exact getLast?_lines passage
  | cons next rest ih =>
      have hbehind : linesBehind (next :: rest) = "" :: linesOfAll (next :: rest) := rfl
      have hlast : (linesOfAll (passage :: next :: rest)).getLast? =
          (linesOfAll (next :: rest)).getLast? := by
        rw [linesOfAll, hbehind, List.getLast?_append_of_ne_nil _ (List.cons_ne_nil _ _),
          List.getLast?_cons_of_ne_nil (linesOfAll_ne_nil _)]
      rw [hlast]
      exact ih next

/-- The blocks of passages are read from their lines. -/
theorem outline_read (passages : List Passage) :
    Outline.read (joinLines (linesOfAll passages)) = (blocks passages, []) := by
  cases passages with
  | nil => rfl
  | cons passage rest =>
      rw [Outline.read_joinLines (linesOfAll_ne_nil _) (isKept_linesOfAll _)
        (getLast?_linesOfAll passage rest)]
      have hshows := showsAt_linesOfAll (passage :: rest) (n := 0) Outline.rests_empty (by simp)
      rw [map_quoted_zero, Levels.openTo_of_length (by rfl), Levels.add, List.nil_append] at hshows
      exact hshows.finish

/-! ### The tree of the blocks -/

mutual

theorem exists_read_block : (passage : Passage) → ∃ b,
    (∀ allowance, Block.traverse (readInlines []) (block passage) allowance = (b, allowance)) ∧
      b.toChild? false = some (child passage)
  | para p => by
      refine ⟨.paragraph [.text p.text], fun allowance => ?_, rfl⟩
      rw [block, Block.traverse_paragraph, readInlines_proseText [] p [] (.inr rfl)]
      rfl
  | heading level p => by
      refine ⟨.heading level [.text p.text], fun allowance => ?_, rfl⟩
      rw [block, Block.traverse_heading, readInlines_chars]
      rfl
  | quote passages => by
      obtain ⟨bs, hread, hchildren⟩ := exists_read_blocks passages
      refine ⟨.quote bs, fun allowance => ?_, ?_⟩
      · rw [block, Block.traverse_quote, hread]
        rfl
      · rw [Block.toChild?, hchildren]
        rfl

theorem exists_read_blocks : (passages : List Passage) → ∃ bs,
    (∀ allowance, Block.traverseAll (readInlines []) (blocks passages) allowance =
      (bs, allowance)) ∧ Block.toChildren false bs = children passages
  | [] => ⟨[], fun _ => rfl, rfl⟩
  | passage :: rest => by
      obtain ⟨b, hread, hchild⟩ := exists_read_block passage
      obtain ⟨bs, hreadRest, hchildren⟩ := exists_read_blocks rest
      refine ⟨b :: bs, fun allowance => ?_, ?_⟩
      · rw [blocks, Block.traverseAll_cons, hread, hreadRest]
        rfl
      · rw [Block.toChildren, hchild, hchildren]
        rfl

end

/-- A tree of passages. -/
def tree (passages : List Passage) : Node := Kind.root.node (children passages)

theorem read_joinLines_linesOfAll (passages : List Passage) :
    read (joinLines (linesOfAll passages)) = tree passages := by
  obtain ⟨document, hread, hchildren⟩ := exists_read_blocks passages
  rw [read_of_outline document (outline_read passages) hread, Document.tree, hchildren, tree]

/-! ### What is written -/

section Writing

open Writer

variable {bullet : Char} {stack : List Marker} {siblings : Siblings}

theorem lines_joinLines_linesOfAll (passages : List Passage) :
    Text.lines (joinLines (linesOfAll passages)) = linesOfAll passages :=
  lines_joinLines (linesOfAll_ne_nil passages) fun line hline hfeed =>
    (isKept_linesOfAll passages line hline _ hfeed).1 rfl

/-- Passages with blank lines between them. -/
theorem intercalate_blankLine (passage : Passage) (rest : List Passage) :
    String.intercalate blankLine ((passage :: rest).map (joinLines ∘ lines)) =
      joinLines (linesOfAll (passage :: rest)) := by
  induction rest generalizing passage with
  | nil =>
      rw [linesOfAll, linesBehind, List.append_nil]
      exact String.intercalate_singleton
  | cons next rest ih =>
      have hlines : linesOfAll (passage :: next :: rest) =
          lines passage ++ ([""] ++ linesOfAll (next :: rest)) := rfl
      have hempty : joinLines [""] = "" := rfl
      rw [List.map_cons, List.map_cons, String.intercalate_cons_cons, ← List.map_cons, ih,
        hlines, joinLines_append (lines_ne_nil passage) (by simp),
        joinLines_append (List.cons_ne_nil _ _) (linesOfAll_ne_nil _), hempty]
      have hfeeds : blankLine = "\n" ++ "\n" := by decide
      rw [hfeeds, String.empty_append]
      simp only [Function.comp_apply, String.append_assoc]

theorem intercalate_lines (passages : List Passage) :
    String.intercalate blankLine (passages.map (joinLines ∘ lines)) =
      joinLines (linesOfAll passages) := by
  cases passages with
  | nil => rfl
  | cons passage rest => exact intercalate_blankLine passage rest

mutual

theorem written_child : (passage : Passage) → ∀ siblings,
    written bullet stack siblings (child passage) = joinLines (lines passage)
  | para p, siblings => by
      refine (written_para (n := Kind.para.node [.text p.text]) rfl).trans ?_
      rw [lines, joinLines, String.intercalate_singleton]
      exact concat_singleton p.text
  | heading level p, siblings => by
      refine (written_header (n := ⟨Kind.header.name,
        Attributes.empty.insert "level" (.natural level), [.text p.text]⟩) rfl).trans ?_
      rw [headingMark_eq level.2, lines, ofList_headingLine, joinLines,
        String.intercalate_singleton]
      exact congrArg _ (concat_singleton p.text)
  | quote passages, siblings => by
      have htexts : texts bullet stack (children passages) = passages.map (joinLines ∘ lines) :=
        mapIdx_children passages _
      refine (written_blockQuote (n := Kind.blockQuote.node (children passages)) rfl).trans ?_
      rw [Kind.node, htexts, intercalate_lines, quoteLines, lines_joinLines_linesOfAll]
      rfl

theorem mapIdx_children : (passages : List Passage) → ∀ places : Nat → Siblings,
    (children passages).mapIdx (fun i c => written bullet stack (places i) c) =
      passages.map (joinLines ∘ lines)
  | [], places => rfl
  | passage :: rest, places => by
      rw [children, List.mapIdx_cons, written_child passage, mapIdx_children rest]
      rfl

end

theorem texts_children (passages : List Passage) :
    texts bullet stack (children passages) = passages.map (joinLines ∘ lines) :=
  mapIdx_children passages _

theorem write_tree (bullet : Char) (passages : List Passage) :
    write bullet (tree passages) = joinLines (linesOfAll passages) := by
  rw [write_eq_written, written_root rfl, tree, Kind.node, texts_children, intercalate_lines]

end Writing

/-! ### The round trip -/

theorem same_empty : (∅ : Attributes).same ∅ = true := rfl

theorem same_level (level : Nat) : (Attributes.empty.insert "level" (.natural level)).same
    (Attributes.empty.insert "level" (.natural level)) = true := by
  have hentries : (Attributes.empty.insert "level" (.natural level)).essential =
      [("level", .natural level)] := rfl
  refine (Attributes.same_iff_essential_eq ?_).mpr rfl
  rw [hentries, List.forall_mem_singleton]
  exact fun v => Json.Value.same_natural_iff

mutual

theorem same_child : (passage : Passage) → (child passage).same (child passage) = true
  | para p => by simp [child, Child.same, Child.allSame, same_empty]
  | heading level p => by simp [child, Child.same, Child.allSame, same_level]
  | quote passages => by simp [child, Child.same, allSame_children passages, same_empty]

theorem allSame_children : (passages : List Passage) →
    Child.allSame (children passages) (children passages) = true
  | [] => rfl
  | passage :: rest => by
      rw [children, Child.allSame, same_child passage, allSame_children rest]
      rfl

end

theorem same_tree (passages : List Passage) : (tree passages).same (tree passages) = true := by
  simp [Node.same, tree, Kind.node, Child.ofNode, Child.same, allSame_children, same_empty]

/-- Passages are read from what is written for them, whatever the bullets. -/
theorem read_write_tree (bullet : Char) (passages : List Passage) :
    read (write bullet (tree passages)) = tree passages ∧
      (read (write bullet (tree passages))).same (tree passages) = true := by
  have hread : read (write bullet (tree passages)) = tree passages := by
    rw [write_tree, read_joinLines_linesOfAll]
  rw [hread]
  exact ⟨rfl, same_tree passages⟩

end Passage

end DocBridge.Markdown

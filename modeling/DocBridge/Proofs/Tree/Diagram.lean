import DocBridge.Proofs.Text.Lines
import DocBridge.Proofs.Tree.Unwrapping
import DocBridge.Tree.Diagram

/-!
# What a diagram shows

A diagram is read back up to what is written on its lines. The lines below a label are cut into
blocks where a branch starts, since going on with a block never looks like starting one, whatever
the labels are: a label stands behind the strokes, and even one that is itself made of strokes is
not mistaken for them. So the blocks of the children are those that were put together, and by
induction a diagram gives back the tree of its labels.

What is on the lines of a tree is its captions: the name of a node, or a text with its line feeds
made visible, shortened where it is all that is below a node. A name with a line feed in it would
take more lines than one, so names are asked to have none.
-/

namespace DocBridge

namespace Diagram

/-! ### Blocks of lines -/

/-- A line that starts a block has a branch before it. -/
def startsBlock (line : String) : Bool :=
  line.toList.head? == some '├' || line.toList.head? == some '└'

/-- A line without the stroke before it. -/
def bare (line : String) : String := String.ofList (line.toList.drop 3)

/-- The lines that go on with a block before them, and the blocks after those. -/
def detach : List String → List String × List (List String)
  | [] => ([], [])
  | line :: rest =>
    if startsBlock line then ([], (bare line :: (detach rest).1) :: (detach rest).2)
    else (bare line :: (detach rest).1, (detach rest).2)

/-- The strokes before the first line of a block and before the others. -/
inductive Branch : String → String → Prop
  | inner : Branch "├─ " "│  "
  | last : Branch "└─ " "   "

/-- All strokes of both branches. -/
def strokes : List String := ["├─ ", "│  ", "└─ ", "   "]

theorem not_mem_of_mem_strokes : ∀ stroke ∈ strokes, '\n' ∉ stroke.toList := by decide

section Blocks

variable {first others : String} {block lines : List String} {rest blocks : List (List String)}

theorem Branch.first_mem (h : Branch first others) : first ∈ strokes := by cases h <;> decide

theorem Branch.others_mem (h : Branch first others) : others ∈ strokes := by cases h <;> decide

theorem exists_attachBlocks_cons (block : List String) (rest : List (List String)) :
    ∃ first others, Branch first others ∧
      attachBlocks (block :: rest) = branch first others block ++ attachBlocks rest := by
  cases rest with
  | nil => exact ⟨_, _, .last, (List.append_nil _).symm⟩
  | cons next rest => exact ⟨_, _, .inner, rfl⟩

theorem bare_append {stroke : String} (h : stroke.toList.length = 3) (line : String) :
    bare (stroke ++ line) = line := by
  rw [bare, String.toList_append, ← h, List.drop_left, String.ofList_toList]

theorem Branch.detach_first (h : Branch first others) (line : String) (lines : List String) :
    detach ((first ++ line) :: lines) = ([], (line :: (detach lines).1) :: (detach lines).2) := by
  have hstarts : startsBlock (first ++ line) = true := by
    rw [startsBlock, String.toList_append]
    cases h <;> rfl
  have hbare : bare (first ++ line) = line := bare_append (by cases h <;> rfl) line
  rw [detach, if_pos hstarts, hbare]

theorem Branch.detach_others (h : Branch first others) (lines : List String) :
    detach (block.map (others ++ ·) ++ lines) = (block ++ (detach lines).1, (detach lines).2) := by
  induction block with
  | nil => rfl
  | cons line block ih =>
      have hgoesOn : startsBlock (others ++ line) = false := by
        rw [startsBlock, String.toList_append]
        cases h <;> rfl
      have hbare : bare (others ++ line) = line := bare_append (by cases h <;> rfl) line
      rw [List.map_cons, List.cons_append, detach, ih, hgoesOn, hbare]
      rfl

/-- Blocks that are attached are detached again. -/
theorem detach_attachBlocks (h : ∀ block ∈ blocks, block ≠ []) :
    detach (attachBlocks blocks) = ([], blocks) := by
  induction blocks with
  | nil => rfl
  | cons block rest ih =>
      obtain ⟨hblock, hrest⟩ := List.forall_mem_cons.mp h
      obtain ⟨line, block, rfl⟩ := List.exists_cons_of_ne_nil hblock
      obtain ⟨first, others, hbranch, hattach⟩ := exists_attachBlocks_cons (line :: block) rest
      rw [hattach, branch, List.cons_append, hbranch.detach_first, hbranch.detach_others, ih hrest,
        List.append_nil]

theorem attachBlocks_injective (hblocks : ∀ block ∈ blocks, block ≠ [])
    (hrest : ∀ block ∈ rest, block ≠ []) (h : attachBlocks blocks = attachBlocks rest) :
    blocks = rest := by
  have hdetach := congrArg detach h
  rw [detach_attachBlocks hblocks, detach_attachBlocks hrest] at hdetach
  exact (Prod.mk.inj hdetach).2

/-- What holds of blocks in a row holds of them attached if no stroke changes it. -/
theorem forall₂_attachBlocks {α : Type} {R S : String → α → Prop}
    (hstroke : ∀ stroke ∈ strokes, ∀ line a, R line a → S (stroke ++ line) a) {rows : List (List α)}
    (h : List.Forall₂ (List.Forall₂ R) blocks rows) :
    List.Forall₂ S (attachBlocks blocks) rows.flatten := by
  induction h with
  | nil => exact .nil
  | @cons block row blocks rows hrow _ ih =>
      obtain ⟨first, others, hbranch, hattach⟩ := exists_attachBlocks_cons block blocks
      rw [hattach, List.flatten_cons]
      refine List.rel_append ?_ ih
      cases hrow with
      | nil => exact .nil
      | cons hline hlines =>
          refine .cons (hstroke first hbranch.first_mem _ _ hline)
            (List.forall₂_map_left_iff.mpr ?_)
          exact hlines.imp (hstroke others hbranch.others_mem)

end Blocks

/-! ### Captions behind strokes -/

/-- A line shows a caption of some depth when it has as many strokes before it. -/
def Shows (line : String) (entry : Nat × String) : Prop :=
  ∃ drawn : List String, drawn.length = entry.1 ∧ (∀ stroke ∈ drawn, stroke ∈ strokes) ∧
    line = String.join drawn ++ entry.2

section Shows

variable {line : String} {entry : Nat × String}

theorem shows_caption (caption : String) : Shows caption (0, caption) :=
  ⟨[], rfl, List.forall_mem_nil _, rfl⟩

theorem Shows.behind {stroke : String} (hstroke : stroke ∈ strokes) (h : Shows line entry) :
    Shows (stroke ++ line) (entry.map (· + 1) id) := by
  obtain ⟨drawn, hlength, hdrawn, rfl⟩ := h
  refine ⟨stroke :: drawn, congrArg (· + 1) hlength, List.forall_mem_cons.mpr ⟨hstroke, hdrawn⟩, ?_⟩
  rw [String.join_cons, String.append_assoc]
  rfl

theorem Shows.not_mem (h : Shows line entry) (hcaption : '\n' ∉ entry.2.toList) :
    '\n' ∉ line.toList := by
  obtain ⟨drawn, -, hdrawn, rfl⟩ := h
  rw [String.toList_append, List.mem_append, not_or]
  refine ⟨?_, hcaption⟩
  induction drawn with
  | nil => simp
  | cons stroke drawn ih =>
      obtain ⟨hstroke, hothers⟩ := List.forall_mem_cons.mp hdrawn
      rw [String.join_cons, String.toList_append, List.mem_append, not_or]
      exact ⟨not_mem_of_mem_strokes stroke hstroke, ih hothers⟩

end Shows

/-! ### Trees of labels -/

/-- An ordered tree of labels. -/
inductive Skeleton where
  | node (label : String) (parts : List Skeleton)

namespace Skeleton

mutual

/-- A label and the lines below it. -/
def lines : Skeleton → List String
  | node label parts => label :: attachBlocks (linesOfAll parts)

def linesOfAll : List Skeleton → List (List String)
  | [] => []
  | s :: rest => lines s :: linesOfAll rest

end

theorem lines_ne_nil (s : Skeleton) : s.lines ≠ [] := by
  cases s
  rw [lines]
  exact List.cons_ne_nil _ _

theorem linesOfAll_eq_map (parts : List Skeleton) : linesOfAll parts = parts.map lines := by
  induction parts with
  | nil => rfl
  | cons s rest ih => rw [linesOfAll, ih, List.map_cons]

theorem ne_nil_of_mem_linesOfAll (parts : List Skeleton) :
    ∀ block ∈ linesOfAll parts, block ≠ [] := by
  rw [linesOfAll_eq_map, List.forall_mem_map]
  exact fun s _ => s.lines_ne_nil

mutual

/-- Different trees of labels have different lines. -/
theorem eq_of_lines_eq : (s t : Skeleton) → s.lines = t.lines → s = t
  | node label parts, node label' parts', h => by
      rw [lines, lines] at h
      obtain ⟨rfl, hbelow⟩ := List.cons.inj h
      have hblocks : linesOfAll parts = linesOfAll parts' :=
        attachBlocks_injective (ne_nil_of_mem_linesOfAll parts) (ne_nil_of_mem_linesOfAll parts')
          hbelow
      rw [eq_of_linesOfAll_eq parts parts' hblocks]

theorem eq_of_linesOfAll_eq : (parts parts' : List Skeleton) →
    linesOfAll parts = linesOfAll parts' → parts = parts'
  | [], [], _ => rfl
  | [], t :: rest, h => by simp [linesOfAll] at h
  | s :: rest, [], h => by simp [linesOfAll] at h
  | s :: rest, t :: rest', h => by
      rw [linesOfAll, linesOfAll] at h
      obtain ⟨hfirst, hothers⟩ := List.cons.inj h
      rw [eq_of_lines_eq s t hfirst, eq_of_linesOfAll_eq rest rest' hothers]

end

end Skeleton

/-! ### Texts on one line -/

theorem not_mem_showLineFeeds (s : String) : '\n' ∉ (showLineFeeds s).toList := by
  rw [showLineFeeds, String.toList_ofList, List.mem_flatMap]
  rintro ⟨c, -, hc⟩
  split at hc
  · simp at hc
  · next hne => exact hne (List.mem_singleton.mp hc).symm

theorem not_mem_shorten (limit : Nat) {line : String} (h : '\n' ∉ line.toList) :
    '\n' ∉ (shorten limit line).toList := by
  rw [shorten]
  split
  · exact h
  · have hmark : '\n' ∉ " (...) ".toList := by decide
    simp only [String.toList_append, String.toList_ofList, List.mem_append, not_or]
    exact ⟨⟨fun hc => h (List.mem_of_mem_take hc), hmark⟩, fun hc => h (List.mem_of_mem_drop hc)⟩

end Diagram

/-! ### The tree of captions -/

namespace Child

open Diagram

variable {limit : Nat} {only : Bool} {c : Child} {children : List Child}

/-- Whether there is one child. -/
def single : List Child → Bool
  | [_] => true
  | _ => false

/-- What stands on the line of a child. It is shortened when the child is the only one of its parent
and has no children of its own. -/
def caption (limit : Nat) (only : Bool) : Child → String
  | text s => if only then shorten limit (showLineFeeds s) else showLineFeeds s
  | node name _ [] => if only then shorten limit name else name
  | node name _ (_ :: _) => name

mutual

/-- The tree of the captions. -/
def skeleton (limit : Nat) (only : Bool) : Child → Skeleton
  | text s => .node (caption limit only (text s)) []
  | node name attributes children =>
    .node (caption limit only (node name attributes children))
      (skeletons limit (single children) children)

def skeletons (limit : Nat) (only : Bool) : List Child → List Skeleton
  | [] => []
  | c :: rest => skeleton limit only c :: skeletons limit only rest

end

mutual

/-- The depth and the caption of each node and text leaf, in document order. -/
def captions (limit : Nat) (only : Bool) : Child → List (Nat × String)
  | text s => [(0, caption limit only (text s))]
  | node name attributes children =>
    (0, caption limit only (node name attributes children)) ::
      (captionsOfAll limit (single children) children).map (Prod.map (· + 1) id)

def captionsOfAll (limit : Nat) (only : Bool) : List Child → List (Nat × String)
  | [] => []
  | c :: rest => captions limit only c ++ captionsOfAll limit only rest

end

@[simp] theorem caption_false_node (limit : Nat) (name : String) (attributes : Attributes)
    (children : List Child) : caption limit false (node name attributes children) = name := by
  cases children <;> rfl

theorem not_mem_caption (h : ∀ label ∈ c.labels, '\n' ∉ label.1.toList) :
    '\n' ∉ (caption limit only c).toList := by
  match c with
  | text s =>
      rw [caption]
      split
      · exact not_mem_shorten limit (not_mem_showLineFeeds s)
      · exact not_mem_showLineFeeds s
  | node name attributes [] =>
      have hname := h (name, attributes) List.mem_cons_self
      rw [caption]
      split
      · exact not_mem_shorten limit hname
      · exact hname
  | node name attributes (d :: rest) => exact h (name, attributes) List.mem_cons_self

mutual

theorem not_mem_captions (limit : Nat) (only : Bool) : (c : Child) →
    (∀ label ∈ c.labels, '\n' ∉ label.1.toList) →
      ∀ entry ∈ c.captions limit only, '\n' ∉ entry.2.toList
  | text s, h => by
      rw [captions, List.forall_mem_singleton]
      exact not_mem_caption h
  | node name attributes children, h => by
      rw [captions, List.forall_mem_cons, List.forall_mem_map]
      refine ⟨not_mem_caption h, fun entry hentry => ?_⟩
      exact not_mem_captionsOfAll limit _ children (List.forall_mem_cons.mp h).2 entry hentry

theorem not_mem_captionsOfAll (limit : Nat) (only : Bool) : (children : List Child) →
    (∀ label ∈ labelsOfAll children, '\n' ∉ label.1.toList) →
      ∀ entry ∈ captionsOfAll limit only children, '\n' ∉ entry.2.toList
  | [], _ => by simp [captionsOfAll]
  | c :: rest, h => by
      obtain ⟨hc, hrest⟩ := List.forall_mem_append.mp h
      rw [captionsOfAll, List.forall_mem_append]
      exact ⟨not_mem_captions limit only c hc, not_mem_captionsOfAll limit only rest hrest⟩

end

theorem captionsOfAll_eq_flatten (limit : Nat) (only : Bool) (children : List Child) :
    captionsOfAll limit only children = (children.map (captions limit only)).flatten := by
  induction children with
  | nil => rfl
  | cons c rest ih => rw [captionsOfAll, ih, List.map_cons, List.flatten_cons]

mutual

/-- The lines of a tree show its captions one after the other. -/
theorem forall₂_shows (limit : Nat) (only : Bool) : (c : Child) →
    List.Forall₂ Shows (c.skeleton limit only).lines (c.captions limit only)
  | text s => .cons (shows_caption _) .nil
  | node name attributes children => by
      rw [skeleton, Skeleton.lines, captions]
      refine .cons (shows_caption _) (List.forall₂_map_right_iff.mpr ?_)
      rw [captionsOfAll_eq_flatten]
      exact forall₂_attachBlocks (fun _ hstroke _ _ hshows => hshows.behind hstroke)
        (forall₂_shows_all limit _ children)

theorem forall₂_shows_all (limit : Nat) (only : Bool) : (children : List Child) →
    List.Forall₂ (List.Forall₂ Shows) (Skeleton.linesOfAll (skeletons limit only children))
      (children.map (captions limit only))
  | [] => .nil
  | c :: rest => .cons (forall₂_shows limit only c) (forall₂_shows_all limit only rest)

end

/-! ### The traversal -/

/-- An only block of one line is shortened, which leaves the lines of a tree of captions. -/
theorem shortenOnly_linesOfAll (limit : Nat) (children : List Child) :
    shortenOnly limit (Skeleton.linesOfAll (skeletons limit false children)) =
      Skeleton.linesOfAll (skeletons limit (single children) children) := by
  match children with
  | [] => rfl
  | [text s] =>
      simp only [skeletons, skeleton, Skeleton.linesOfAll, Skeleton.lines, caption, attachBlocks,
        shortenOnly, single, if_true, Bool.false_eq_true, if_false]
  | [node name attributes []] =>
      simp only [skeletons, skeleton, Skeleton.linesOfAll, Skeleton.lines, caption, attachBlocks,
        shortenOnly, single, if_true, Bool.false_eq_true, if_false]
  | [node name attributes (d :: rest)] =>
      obtain ⟨line, block, hblock⟩ := List.exists_cons_of_ne_nil (skeleton limit
        (single (d :: rest)) d).lines_ne_nil
      obtain ⟨first, others, -, hattach⟩ := exists_attachBlocks_cons (line :: block)
        (Skeleton.linesOfAll (skeletons limit (single (d :: rest)) rest))
      simp only [skeletons, skeleton, Skeleton.linesOfAll, Skeleton.lines, hblock, hattach]
      rfl
  | c :: d :: rest =>
      rw [shortenOnly]
      · rfl
      · intro line h
        simp [skeletons, Skeleton.linesOfAll] at h

mutual

theorem child_drawing (limit : Nat) (siblings : Siblings) : (c : Child) →
    (∀ label ∈ c.labels, '\n' ∉ label.1.toList) →
      ((traversal limit).child siblings c).run.toList = [(c.skeleton limit false).lines]
  | text s, _ => rfl
  | node name attributes children, h => by
      obtain ⟨hname, hbelow⟩ := List.forall_mem_cons.mp h
      rw [Traversal.child]
      change [Text.lines name ++ attachBlocks (shortenOnly limit
        ((traversal limit).childrenFrom children 0 children).run)] = _
      rw [Text.lines_of_not_mem hname, childrenFrom_drawing limit children 0 children hbelow,
        shortenOnly_linesOfAll, skeleton, Skeleton.lines, caption_false_node]
      rfl

theorem childrenFrom_drawing (limit : Nat) (all : List Child) (index : Nat) :
    (children : List Child) → (∀ label ∈ labelsOfAll children, '\n' ∉ label.1.toList) →
      ((traversal limit).childrenFrom all index children).run =
        Skeleton.linesOfAll (skeletons limit false children)
  | [], _ => rfl
  | c :: rest, h => by
      obtain ⟨hc, hrest⟩ := List.forall_mem_append.mp h
      have hfirst := child_drawing limit ⟨all, index⟩ c hc
      have hothers := childrenFrom_drawing limit all (index + 1) rest hrest
      simp only [Traversal.childrenFrom, Id.run_bind, Id.run_pure, hfirst, hothers]
      rfl

end

end Child

namespace Node

/-- The tree of the captions of a tree. The root is nobody's only child. -/
def skeleton (limit : Nat) (root : Node) : Diagram.Skeleton :=
  (Child.ofNode root).skeleton limit false

/-- The depth and the caption of each node and text leaf of a tree, in document order. -/
def captions (limit : Nat) (root : Node) : List (Nat × String) :=
  (Child.ofNode root).captions limit false

variable {limit : Nat} {root a b : Node}

theorem diagram_eq_joinLines (h : ∀ label ∈ root.labels, '\n' ∉ label.1.toList) :
    root.diagram limit = Text.joinLines (root.skeleton limit).lines := by
  have hrun : ((Diagram.traversal limit).run root).run.toList = [(root.skeleton limit).lines] :=
    Child.child_drawing limit .root root h
  change Text.joinLines ((Diagram.traversal limit).run root).run.toList.flatten = _
  rw [hrun, List.flatten_singleton]

theorem lines_diagram (h : ∀ label ∈ root.labels, '\n' ∉ label.1.toList) :
    Text.lines (root.diagram limit) = (root.skeleton limit).lines := by
  have hshows := Child.forall₂_shows limit false root
  have hcaptions := Child.not_mem_captions limit false root h
  rw [diagram_eq_joinLines h]
  refine Text.lines_joinLines (root.skeleton limit).lines_ne_nil fun line hline => ?_
  obtain ⟨entry, hentry, hline⟩ := Dictionary.exists_mem_of_forall₂ hshows hline
  exact hline.not_mem (hcaptions entry hentry)

/-- Trees have the same diagram if and only if they have the same tree of captions, and a diagram
has a line for each node and text leaf, in document order, which shows its caption behind as many
strokes as it is deep. -/
theorem diagram_eq_iff_skeleton_eq (limit : Nat) (a b : Node)
    (ha : ∀ label ∈ a.labels, '\n' ∉ label.1.toList)
    (hb : ∀ label ∈ b.labels, '\n' ∉ label.1.toList) :
    (a.diagram limit = b.diagram limit ↔ a.skeleton limit = b.skeleton limit) ∧
      List.Forall₂ Diagram.Shows (Text.lines (a.diagram limit)) (a.captions limit) := by
  refine ⟨⟨fun h => ?_, fun h => ?_⟩, ?_⟩
  · refine Diagram.Skeleton.eq_of_lines_eq _ _ ?_
    rw [← lines_diagram ha, ← lines_diagram hb, h]
  · rw [diagram_eq_joinLines ha, diagram_eq_joinLines hb, h]
  · rw [lines_diagram ha]
    exact Child.forall₂_shows limit false a

theorem diagram_eq_iff_skeleton_eq_lookalike :
    let only (s : String) : Child := .node "Para" ∅ [.text s]
    let a : Node := ⟨"root", ∅, [only "abcdefgh", .text "└─ B"]⟩
    let shortenedAlike : Node := ⟨"root", ∅, [only "abXYZgh", .text "└─ B"]⟩
    let drawnAlike : Node := ⟨"root", ∅, [only "abcdefgh", .node "" ∅ [.text "B"]]⟩
    (∀ root ∈ [a, shortenedAlike, drawnAlike], ∀ label ∈ root.labels, '\n' ∉ label.1.toList) ∧
      a.diagram 4 = shortenedAlike.diagram 4 ∧ a.diagram 4 ≠ drawnAlike.diagram 4 ∧
      List.Forall₂ Diagram.Shows (Text.lines (a.diagram 4))
        [(0, "root"), (1, "Para"), (2, "ab (...) gh"), (1, "└─ B")] := by
  intro only a shortenedAlike drawnAlike
  have hnames : ∀ root ∈ [a, shortenedAlike, drawnAlike],
      ∀ label ∈ root.labels, '\n' ∉ label.1.toList := by decide +kernel
  have hcaptions : a.captions 4 = [(0, "root"), (1, "Para"), (2, "ab (...) gh"), (1, "└─ B")] := by
    decide +kernel
  obtain ⟨hshortened, hlines⟩ := diagram_eq_iff_skeleton_eq 4 a shortenedAlike
    (hnames a (.head _)) (hnames shortenedAlike (.tail _ (.head _)))
  obtain ⟨hdrawn, -⟩ := diagram_eq_iff_skeleton_eq 4 a drawnAlike
    (hnames a (.head _)) (hnames drawnAlike (.tail _ (.tail _ (.head _))))
  refine ⟨hnames, hshortened.mpr ?_, fun h => ?_, hcaptions ▸ hlines⟩
  · exact Diagram.Skeleton.eq_of_lines_eq _ _ (by decide +kernel)
  · have hskeletons := congrArg Diagram.Skeleton.lines (hdrawn.mp h)
    revert hskeletons
    decide +kernel

end Node

end DocBridge

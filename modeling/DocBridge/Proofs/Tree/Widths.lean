import DocBridge.Proofs.Tree.Diagram

/-!
# How wide the lines of a diagram are

A line of a diagram has three characters for each stroke and then those of its caption, so its width
does not depend on which strokes they are, and shortening can be followed caption by caption. Only
the caption of an only child without children of its own is ever shortened. What is cut out of it is
replaced by a mark of seven characters, which the limit does not count: a caption that is longer
than the limit by less than the mark takes becomes longer, by six characters at most.
-/

namespace DocBridge

namespace Diagram

/-- What is on one line of a diagram: the depth of its node or text, whether this is a caption that
may be shortened, and the caption without a limit. -/
structure Row where
  depth : Nat
  isOnly : Bool
  caption : String
deriving DecidableEq

namespace Row

def deeper (row : Row) : Row := { row with depth := row.depth + 1 }

/-- The caption at a limit. -/
def shown (limit : Nat) (row : Row) : String :=
  if row.isOnly then shorten limit row.caption else row.caption

/-- The caption is longer than a limit that it is shortened to. -/
def IsCut (limit : Nat) (row : Row) : Prop := row.isOnly = true ∧ limit < row.caption.length

instance (limit : Nat) (row : Row) : Decidable (row.IsCut limit) :=
  inferInstanceAs (Decidable (_ ∧ _))

/-- The number of characters on the line without a limit. -/
def fullWidth (row : Row) : Nat := 3 * row.depth + row.caption.length

/-- The number of characters on the line at a limit: of a caption that is cut there are two halves
of the limit, rounded down, and the mark. -/
def width (limit : Nat) (row : Row) : Nat :=
  if row.IsCut limit then 3 * row.depth + (2 * (limit / 2) + 7) else row.fullWidth

end Row

variable {limit : Nat} {line : String} {entry : Nat × String} {row : Row}

theorem length_shorten (limit : Nat) (line : String) : (shorten limit line).length =
    if limit < line.length then 2 * (limit / 2) + 7 else line.length := by
  have hmark : " (...) ".length = 7 := rfl
  rw [shorten, String.length_toList]
  split
  · next h => rw [if_neg (Nat.not_lt.mpr h)]
  · next h =>
      rw [if_pos (Nat.not_le.mp h)]
      simp only [String.length_append, String.length_ofList, List.length_take, List.length_drop,
        String.length_toList, hmark]
      omega

theorem Row.length_shown (limit : Nat) (row : Row) :
    3 * row.depth + (row.shown limit).length = row.width limit := by
  rw [shown, width, fullWidth]
  by_cases honly : row.isOnly = true
  · rw [if_pos honly, length_shorten]
    simp only [IsCut, honly, true_and]
    split <;> rfl
  · rw [if_neg honly, if_neg fun h => honly h.1]

/-- A limit that nothing is longer than has no effect. -/
theorem Row.width_of_le (h : row.caption.length ≤ limit) : row.width limit = row.fullWidth :=
  if_neg fun hcut => absurd hcut.2 (Nat.not_lt.mpr h)

theorem Row.fullWidth_lt_width_iff : row.fullWidth < row.width limit ↔
    row.IsCut limit ∧ row.caption.length < 2 * (limit / 2) + 7 := by
  rw [width, fullWidth]
  split
  · next h => simp only [h, true_and]; omega
  · next h => simp only [h, false_and, Nat.lt_irrefl]

theorem Row.width_le (limit : Nat) (row : Row) : row.width limit ≤ row.fullWidth + 6 := by
  rw [width, fullWidth]
  split
  · next h =>
      have hlong : limit < row.caption.length := h.2
      omega
  · omega

theorem length_of_mem_strokes : ∀ stroke ∈ strokes, stroke.length = 3 := by decide

theorem Shows.length_eq (h : Shows line entry) : line.length = 3 * entry.1 + entry.2.length := by
  obtain ⟨drawn, hdepth, hdrawn, rfl⟩ := h
  have hjoin : (String.join drawn).length = 3 * drawn.length := by
    rw [String.length_join, List.map_congr_left fun s hs => length_of_mem_strokes s (hdrawn s hs),
      List.map_const', List.sum_replicate_nat, Nat.mul_comm]
  rw [String.length_append, hjoin, hdepth]

end Diagram

/-! ### The rows of a tree -/

namespace Child

open Diagram

mutual

/-- The rows of a child that is the only one or not, in document order. -/
def rows (only : Bool) : Child → List Row
  | text s => [⟨0, only, showLineFeeds s⟩]
  | node name _ children =>
    ⟨0, only && children.isEmpty, name⟩ :: (rowsOfAll (single children) children).map Row.deeper

def rowsOfAll (only : Bool) : List Child → List Row
  | [] => []
  | c :: rest => rows only c ++ rowsOfAll only rest

end

theorem caption_eq_shown (limit : Nat) (only : Bool) (name : String) (attributes : Attributes)
    (children : List Child) : caption limit only (node name attributes children) =
      Row.shown limit ⟨0, only && children.isEmpty, name⟩ := by
  cases children <;> cases only <;> rfl

theorem map_deeper (limit : Nat) (rows : List Row) :
    (rows.map Row.deeper).map (fun row => (row.depth, row.shown limit)) =
      (rows.map fun row => (row.depth, row.shown limit)).map (Prod.map (· + 1) id) := by
  rw [List.map_map, List.map_map]
  rfl

mutual

/-- The captions at a limit are those of the rows, each shortened on its own. -/
theorem captions_eq_map_rows (limit : Nat) (only : Bool) : (c : Child) →
    c.captions limit only = (c.rows only).map fun row => (row.depth, row.shown limit)
  | text s => rfl
  | node name attributes children => by
      rw [captions, rows, List.map_cons, caption_eq_shown, map_deeper,
        captionsOfAll_eq_map_rowsOfAll limit (single children) children]

theorem captionsOfAll_eq_map_rowsOfAll (limit : Nat) (only : Bool) : (children : List Child) →
    captionsOfAll limit only children =
      (rowsOfAll only children).map fun row => (row.depth, row.shown limit)
  | [] => rfl
  | c :: rest => by
      rw [captionsOfAll, rowsOfAll, List.map_append, captions_eq_map_rows limit only c,
        captionsOfAll_eq_map_rowsOfAll limit only rest]

end

end Child

namespace Node

open Diagram

/-- The rows of a tree. The root is nobody's only child. -/
def rows (root : Node) : List Row := (Child.ofNode root).rows false

variable {root : Node}

/-- The widths of the lines at a limit are those of the rows. -/
theorem map_length_lines (limit : Nat) (h : ∀ label ∈ root.labels, '\n' ∉ label.1.toList) :
    (Text.lines (root.diagram limit)).map String.length = root.rows.map (Row.width limit) := by
  have hshows := Child.forall₂_shows limit false root
  rw [Child.captions_eq_map_rows, List.forall₂_map_right_iff] at hshows
  have hwidths : List.Forall₂ (fun line row => line.length = Row.width limit row)
      (root.skeleton limit).lines root.rows :=
    hshows.imp fun line row hline => hline.length_eq.trans (row.length_shown limit)
  rw [lines_diagram h]
  exact List.forall₂_eq_eq_eq ▸
    List.forall₂_map_left_iff.mpr (List.forall₂_map_right_iff.mpr hwidths)

/-- Lines at two limits compare as their widths do. -/
theorem forall₂_lines_iff {R : Nat → Nat → Prop} (limit wide : Nat)
    (h : ∀ label ∈ root.labels, '\n' ∉ label.1.toList) :
    List.Forall₂ (fun line full => R line.length full.length) (Text.lines (root.diagram limit))
        (Text.lines (root.diagram wide)) ↔
      ∀ row ∈ root.rows, R (row.width limit) (row.width wide) := by
  have hmap : List.Forall₂ R ((Text.lines (root.diagram limit)).map String.length)
      ((Text.lines (root.diagram wide)).map String.length) ↔
        ∀ row ∈ root.rows, R (row.width limit) (row.width wide) := by
    rw [map_length_lines limit h, map_length_lines wide h, List.forall₂_map_left_iff,
      List.forall₂_map_right_iff, List.forall₂_same]
  rwa [List.forall₂_map_left_iff, List.forall₂_map_right_iff] at hmap

/-- Beside the diagram with a limit that no caption is longer than, a diagram with any limit has as
many lines, each at most six characters longer. None is longer at all if and only if no caption that
is shortened is shorter than two halves of the limit and the mark. -/
theorem lines_not_longer_iff (limit wide : Nat) (root : Node)
    (hnames : ∀ label ∈ root.labels, '\n' ∉ label.1.toList)
    (hwide : ∀ row ∈ root.rows, row.caption.length ≤ wide) :
    (Text.lines (root.diagram limit)).map String.length = root.rows.map (Row.width limit) ∧
    (Text.lines (root.diagram wide)).map String.length = root.rows.map Row.fullWidth ∧
    List.Forall₂ (fun line full => line.length ≤ full.length + 6)
      (Text.lines (root.diagram limit)) (Text.lines (root.diagram wide)) ∧
    (List.Forall₂ (fun line full => line.length ≤ full.length)
        (Text.lines (root.diagram limit)) (Text.lines (root.diagram wide)) ↔
      ∀ row ∈ root.rows, row.IsCut limit → 2 * (limit / 2) + 7 ≤ row.caption.length) := by
  have hfull : ∀ row ∈ root.rows, row.width wide = row.fullWidth :=
    fun row hrow => Row.width_of_le (hwide row hrow)
  refine ⟨map_length_lines limit hnames, ?_, ?_, ?_⟩
  · rw [map_length_lines wide hnames]
    exact List.map_congr_left hfull
  · refine (forall₂_lines_iff (R := fun m n => m ≤ n + 6) limit wide hnames).mpr fun row hrow => ?_
    rw [hfull row hrow]
    exact row.width_le limit
  · rw [forall₂_lines_iff (R := fun m n => m ≤ n) limit wide hnames]
    refine forall₂_congr fun row hrow => ?_
    rw [hfull row hrow, ← Nat.not_lt, Row.fullWidth_lt_width_iff, not_and, Nat.not_lt]

/-- A caption of eleven letters, cut at ten, and one of seventeen. -/
theorem lines_not_longer_iff_letters :
    let root : Node := ⟨"root", ∅, [.node "Para" ∅ [.text "abcdefghijk"],
      .node "Para" ∅ [.text "abcdefghijklmnopq"]]⟩
    (∀ label ∈ root.labels, '\n' ∉ label.1.toList) ∧
      (∀ row ∈ root.rows, row.caption.length ≤ 17) ∧
      (Text.lines (root.diagram 10)).map String.length = [4, 7, 23, 7, 23] ∧
      (Text.lines (root.diagram 17)).map String.length = [4, 7, 17, 7, 23] := by
  intro root
  have hnames : ∀ label ∈ root.labels, '\n' ∉ label.1.toList := by decide +kernel
  have hwide : ∀ row ∈ root.rows, row.caption.length ≤ 17 := by decide +kernel
  obtain ⟨hlimit, hfull, -, -⟩ := lines_not_longer_iff 10 17 root hnames hwide
  refine ⟨hnames, hwide, hlimit.trans ?_, hfull.trans ?_⟩
  · decide +kernel
  · decide +kernel

/-- A caption that is longer than the limit by one character becomes longer. -/
theorem not_lines_not_longer :
    ¬∀ (root : Node) (limit wide : Nat), (∀ label ∈ root.labels, '\n' ∉ label.1.toList) →
      (∀ row ∈ root.rows, row.caption.length ≤ wide) →
        List.Forall₂ (fun line full => line.length ≤ full.length)
          (Text.lines (root.diagram limit)) (Text.lines (root.diagram wide)) := by
  intro h
  have hlonger := h ⟨"root", ∅, [.text "abcdefghijk"]⟩ 10 11 (by decide +kernel) (by decide +kernel)
  revert hlonger
  decide +kernel

end Node

end DocBridge

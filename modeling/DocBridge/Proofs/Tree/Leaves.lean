import DocBridge.Tree.Equality
import DocBridge.Tree.Kind
import Mathlib.Data.List.Chain

/-!
# Text leaves side by side

Children that are put together with `Child.join` never have two text leaves side by side, since the
second of them is taken up by the first. Equal lists of children have their text leaves at the same
places. A tree is merged when nowhere in it two text leaves are side by side.

Breaks are nodes that stand for a line end and not for what is in them. They are bare when no text
is below any of them.
-/

namespace DocBridge.Child

variable {c d : Child} {children others rest : List Child}

def IsText : Child → Prop
  | text _ => True
  | node _ _ _ => False

@[simp] theorem isText_text (s : String) : (text s).IsText := trivial

@[simp] theorem not_isText_node (name : String) (attributes : Attributes) (children : List Child) :
    ¬(node name attributes children).IsText := id

/-- No two text leaves are neighbours. -/
def TextsApart (children : List Child) : Prop := children.IsChain fun c d => ¬(c.IsText ∧ d.IsText)

theorem textsApart_nil : TextsApart [] := .nil

theorem textsApart_cons :
    TextsApart (c :: rest) ↔ (∀ d ∈ rest.head?, ¬(c.IsText ∧ d.IsText)) ∧ TextsApart rest :=
  List.isChain_cons

theorem join_eq_cons (h : ∀ d ∈ rest.head?, ¬(c.IsText ∧ d.IsText)) : join c rest = c :: rest := by
  cases c with
  | node name attributes below => rfl
  | text s =>
      cases rest with
      | nil => rfl
      | cons d rest =>
          cases d with
          | node name attributes below => rfl
          | text t => simp at h

theorem TextsApart.join (h : TextsApart rest) : TextsApart (join c rest) := by
  by_cases hmeet : ∀ d ∈ rest.head?, ¬(c.IsText ∧ d.IsText)
  · rw [join_eq_cons hmeet]
    exact textsApart_cons.mpr ⟨hmeet, h⟩
  · cases c with
    | node name attributes below => simp at hmeet
    | text s =>
        cases rest with
        | nil => simp at hmeet
        | cons d rest =>
            cases d with
            | node name attributes below => simp at hmeet
            | text t => simpa [Child.join, textsApart_cons] using textsApart_cons.mp h

theorem TextsApart.foldr_join (h : TextsApart rest) (children : List Child) :
    TextsApart (children.foldr Child.join rest) := by
  induction children with
  | nil => exact h
  | cons c children ih => exact ih.join

theorem foldr_join_append (h : ∀ d ∈ rest.head?, ¬d.IsText) (children : List Child) :
    children.foldr Child.join rest = children.foldr Child.join [] ++ rest := by
  induction children with
  | nil => rfl
  | cons c children ih =>
      rw [List.foldr_cons, ih, List.foldr_cons]
      cases children.foldr Child.join [] with
      | nil =>
          rw [List.nil_append, join_eq_cons fun d hd hmeet => h d hd hmeet.2]
          cases c <;> rfl
      | cons d joined => cases c <;> cases d <;> rfl

theorem forall_text_foldr_join {P : String → Prop} (happend : ∀ s t, P s → P t → P (s ++ t))
    (h : ∀ s, text s ∈ children → P s) (s : String) (hs : text s ∈ children.foldr join []) :
    P s := by
  induction children generalizing s with
  | nil => simp at hs
  | cons c children ih =>
      have hrest := ih fun s hs => h s (List.mem_cons_of_mem _ hs)
      rw [List.foldr_cons] at hs
      cases c with
      | node name attributes below => exact hrest s (by simpa [join] using hs)
      | text t =>
          have ht := h t List.mem_cons_self
          cases hjoined : children.foldr join [] with
          | nil =>
              obtain rfl : s = t := by simpa [hjoined, join] using hs
              exact ht
          | cons d joined =>
              rw [hjoined] at hs hrest
              cases d with
              | node name attributes below =>
                  obtain rfl | hs : s = t ∨ text s ∈ joined := by simpa [join] using hs
                  · exact ht
                  · exact hrest s (List.mem_cons_of_mem _ hs)
              | text u =>
                  obtain rfl | hs : s = t ++ u ∨ text s ∈ joined := by simpa [join] using hs
                  · exact happend t u ht (hrest u List.mem_cons_self)
                  · exact hrest s (List.mem_cons_of_mem _ hs)

/-- What holds of all children, and of joined texts, holds of the children with one put before. -/
theorem forall_mem_join {P : Child → Prop}
    (hjoin : ∀ s t, P (text s) → P (text t) → P (text (s ++ t))) (hc : P c)
    (h : ∀ d ∈ rest, P d) : ∀ d ∈ join c rest, P d := by
  cases c with
  | node name attributes below => simpa [join] using ⟨hc, h⟩
  | text s =>
      cases rest with
      | nil => simpa [join] using hc
      | cons d rest =>
          obtain ⟨hd, hrest⟩ := List.forall_mem_cons.mp h
          cases d with
          | node name attributes below => simpa [join] using ⟨hc, hd, hrest⟩
          | text t => simpa [join] using ⟨hjoin s t hc hd, hrest⟩

theorem isText_iff_of_same (h : c.same d = true) : c.IsText ↔ d.IsText := by
  cases c <;> cases d <;> simp_all [same]

theorem TextsApart.of_allSame (h : TextsApart children) (hsame : allSame children others = true) :
    TextsApart others := by
  induction children generalizing others with
  | nil =>
      cases others with
      | nil => exact textsApart_nil
      | cons d others => simp [allSame] at hsame
  | cons c children ih =>
      cases others with
      | nil => simp [allSame] at hsame
      | cons d others =>
          rw [allSame, Bool.and_eq_true] at hsame
          obtain ⟨hmeet, hrest⟩ := textsApart_cons.mp h
          refine textsApart_cons.mpr ⟨?_, ih hrest hsame.2⟩
          cases children with
          | nil =>
              cases others with
              | nil => simp
              | cons d' others => simp [allSame] at hsame
          | cons c' children =>
              cases others with
              | nil => simp
              | cons d' others =>
                  rw [allSame, Bool.and_eq_true] at hsame
                  simpa [isText_iff_of_same hsame.1, isText_iff_of_same hsame.2.1] using hmeet

/-! ### Merged trees -/

mutual

/-- No two text leaves are neighbours anywhere below. -/
def Merged : Child → Prop
  | text _ => True
  | node _ _ children => TextsApart children ∧ AllMerged children

def AllMerged : List Child → Prop
  | [] => True
  | c :: rest => Merged c ∧ AllMerged rest

end

theorem allMerged_iff : AllMerged children ↔ ∀ c ∈ children, c.Merged := by
  induction children with
  | nil => simp [AllMerged]
  | cons c rest ih => rw [AllMerged, ih, List.forall_mem_cons]

/-! ### Bare breaks -/

mutual

/-- No soft or hard break has text below it. -/
def BreaksBare : Child → Prop
  | text _ => True
  | node name _ children =>
    (name = Kind.softBreak.name ∨ name = Kind.lineBreak.name → textOfAll children = "") ∧
      AllBreaksBare children

def AllBreaksBare : List Child → Prop
  | [] => True
  | c :: rest => BreaksBare c ∧ AllBreaksBare rest

end

theorem allBreaksBare_iff : AllBreaksBare children ↔ ∀ c ∈ children, c.BreaksBare := by
  induction children with
  | nil => simp [AllBreaksBare]
  | cons c rest ih => rw [AllBreaksBare, ih, List.forall_mem_cons]

/-! ### All text leaves -/

mutual

/-- The text leaves, in document order. -/
def leaves : Child → List String
  | text s => [s]
  | node _ _ children => leavesOfAll children

def leavesOfAll : List Child → List String
  | [] => []
  | c :: rest => leaves c ++ leavesOfAll rest

end

@[simp] theorem leavesOfAll_singleton : leavesOfAll [c] = leaves c := List.append_nil _

theorem leavesOfAll_append (front back : List Child) :
    leavesOfAll (front ++ back) = leavesOfAll front ++ leavesOfAll back := by
  induction front with
  | nil => rfl
  | cons c rest ih => rw [List.cons_append, leavesOfAll, leavesOfAll, ih, List.append_assoc]

end DocBridge.Child

namespace DocBridge

/-- The text leaves of a tree, in document order. -/
def Node.leaves (root : Node) : List String := (Child.ofNode root).leaves

/-- No node of a tree has two text leaves as neighbours among its children. -/
def Node.Merged (root : Node) : Prop := (Child.ofNode root).Merged

/-- No soft or hard break in a tree has text below it. -/
def Node.BreaksBare (root : Node) : Prop := (Child.ofNode root).BreaksBare

end DocBridge

import DocBridge.Proofs.Markdown.Enclosing
import DocBridge.Proofs.Tree.Leaves
import Mathlib.Data.List.Flatten
import Mathlib.Data.List.Forall2

/-!
# No text is lost in writing

The characters of a tree's text stand in its Markdown in their order. Writing puts characters around
texts, between them and before their lines, and takes none away. Code and formulas are written from
their text at once, all else from the pieces of the children, so this goes by induction over the
tree. Only breaks are written without a look at what is below them.
-/

namespace DocBridge.Text

variable {s t u v : String} {parts others : List String}

/-- The characters of a text stand in another one, in their order. -/
def Within (s t : String) : Prop := s.toList.Sublist t.toList

theorem within_refl (s : String) : Within s s := List.Sublist.refl _

theorem within_empty (t : String) : Within "" t := List.nil_sublist _

theorem Within.trans (h : Within s t) (h' : Within t u) : Within s u := List.Sublist.trans h h'

theorem Within.append (h : Within s t) (h' : Within u v) : Within (s ++ u) (t ++ v) := by
  rw [Within, String.toList_append, String.toList_append]
  exact List.Sublist.append h h'

theorem Within.behind (h : Within s t) (start : String) : Within s (start ++ t) := by
  rw [Within, String.toList_append]
  exact List.Sublist.trans h (List.sublist_append_right _ _)

theorem Within.before (h : Within s t) (rest : String) : Within s (t ++ rest) := by
  rw [Within, String.toList_append]
  exact List.Sublist.trans h (List.sublist_append_left _ _)

theorem within_intercalate (between : String) (parts : List String) :
    Within (String.join parts) (String.intercalate between parts) := by
  induction parts with
  | nil => exact within_empty _
  | cons part rest ih =>
      cases rest with
      | nil => simpa using within_refl part
      | cons next rest =>
          rw [String.join_cons, String.intercalate_cons_cons]
          exact ((within_refl part).before between).append ih

theorem Within.joinLines (h : List.Forall₂ Within parts others) :
    Within (joinLines parts) (joinLines others) := by
  rw [Text.joinLines, Text.joinLines]
  induction h with
  | nil => exact within_refl _
  | @cons part other rest others hpart hrest ih =>
      cases hrest with
      | nil => simpa using hpart
      | cons hnext hrest =>
          rw [String.intercalate_cons_cons, String.intercalate_cons_cons]
          exact (hpart.append (within_refl _)).append ih

/-- Nothing is lost of a text when nothing is lost of its lines. -/
theorem within_of_lines (h : List.Forall₂ Within (lines s) parts) :
    Within s (Text.joinLines parts) := by
  have hjoined := Within.joinLines h
  rwa [joinLines_lines] at hjoined

end DocBridge.Text

namespace DocBridge.Markdown.Writer

open Text (Within within_refl within_empty)

variable {bullet : Char} {stack : List Marker} {siblings : Siblings} {n : Node} {c : Child}

theorem within_marked (mark blank line : String) :
    Within line (if line = "" then blank else mark ++ line) := by
  split
  · next h => rw [h]; exact within_empty _
  · exact (within_refl line).behind _

theorem within_quoteLines (s : String) : Within s (quoteLines s) := by
  apply Text.within_of_lines
  rw [List.forall₂_map_right_iff, List.forall₂_same]
  exact fun line _ => within_marked "> " ">" line

theorem within_indented (width : Nat) (s : String) : Within s (indented width s) := by
  rw [indented]
  cases hs : Text.lines s with
  | nil => exact absurd hs (Text.lines_ne_nil s)
  | cons first rest =>
      apply Text.within_of_lines
      rw [hs]
      refine .cons (within_refl first) ?_
      rw [List.forall₂_map_right_iff, List.forall₂_same]
      exact fun line _ => within_marked _ "" line

theorem within_codeSpan (code : String) : Within code (codeSpan code) := by
  rw [codeSpan]
  split
  · exact ((within_refl code).behind _).before _
  · exact ((within_refl code).behind _).before _

/-! ### Nodes -/

theorem written_fallback (h : (traversal bullet).handler n.name = (traversal bullet).fallback) :
    written bullet stack siblings n = concat (texts bullet stack n.children) := by
  have hfallback : (traversal bullet).fallback = fun _ _ children => do
      return .one (concat (← children)) := rfl
  refine written_eq_of_run ?_
  rw [Child.ofNode, Traversal.child, h, hfallback, EStateM.run_bind, run_children]
  rfl

theorem within_texts {children : List Child} {parts : List String}
    (h : List.Forall₂ (fun (c : Child) part => Within c.textContent part) children parts) :
    Within (Child.textOfAll children) (concat parts) := by
  induction h with
  | nil => exact within_empty _
  | cons hpart _ ih =>
      rw [Child.textOfAll, concat, String.join_cons]
      exact hpart.append ih

theorem forall₂_texts {children : List Child} {P : Child → String → Prop}
    (h : ∀ c ∈ children, ∀ siblings, P c (written bullet stack siblings c)) :
    List.Forall₂ P children (texts bullet stack children) := by
  rw [texts, List.forall₂_iff_get]
  refine ⟨by simp, fun i hi _ => ?_⟩
  simpa using h children[i] (List.getElem_mem hi) ⟨children, i⟩

/-- Nothing is lost of the text of a node when nothing is lost in the texts of its children. -/
theorem within_written_node (hbare : n.BreaksBare)
    (h : ∀ stack, Within n.textContent (concat (texts bullet stack n.children))) :
    Within n.textContent (written bullet stack siblings n) := by
  obtain hfallback | ⟨kind, hname, -⟩ := handler_cases bullet n.name
  · rw [written_fallback hfallback]
    exact h stack
  have hjoined (between : String) :
      Within n.textContent (String.intercalate between (texts bullet stack n.children)) :=
    (h stack).trans (Text.within_intercalate between _)
  cases kind with
  | root =>
      rw [written_of_parts hname rfl]
      exact hjoined _
  | para | plain =>
      rw [written_of_parts hname rfl]
      exact h stack
  | header =>
      rw [written_of_parts hname rfl]
      exact (h stack).behind _
  | blockQuote =>
      rw [written_of_parts hname rfl]
      exact (hjoined _).trans (within_quoteLines _)
  | bulletList =>
      have hmarker : markerOf? bullet n = some (.bullet bullet) := by rw [markerOf?, if_pos hname]
      rw [written_list hmarker]
      exact h _
  | orderedList =>
      have hne : n.name ≠ Kind.bulletList.name := by
        rw [hname]
        decide
      have hmarker : markerOf? bullet n = some (.ofOrderedList n) := by
        rw [markerOf?, if_neg hne, if_pos hname]
      rw [written_list hmarker]
      exact h _
  | listItem =>
      rw [written_listItem hname]
      exact (((hjoined _).trans (within_indented _ _)).behind _).before _
  | emph | strong =>
      rw [written_of_parts hname rfl]
      exact ((h stack).behind _).before _
  | link | image =>
      rw [written_of_parts hname rfl]
      exact (((h stack).behind _).before _).before _
  | codeBlock | mathBlock | math =>
      rw [written_of_node hname rfl]
      exact ((within_refl _).behind _).before _
  | code =>
      rw [written_of_node hname rfl]
      exact within_codeSpan _
  | softBreak =>
      have hempty : n.textContent = "" := hbare.1 (.inl hname)
      rw [hempty]
      exact within_empty _
  | lineBreak =>
      have hempty : n.textContent = "" := hbare.1 (.inr hname)
      rw [hempty]
      exact within_empty _

theorem within_written {c : Child} (hbare : c.BreaksBare) (stack : List Marker)
    (siblings : Siblings) : Within c.textContent (written bullet stack siblings c) := by
  match c with
  | .text s => exact within_refl s
  | .node name attributes children =>
      have hchildren : ∀ c ∈ children, c.BreaksBare := Child.allBreaksBare_iff.mp hbare.2
      refine within_written_node (n := ⟨name, attributes, children⟩) hbare fun stack => ?_
      apply within_texts
      exact forall₂_texts fun d hd siblings => within_written (hchildren d hd) stack siblings
termination_by c

/-- Whatever is in a tree, the characters of its text stand in its Markdown in their order, if no
break has text below it. -/
theorem textContent_sublist_write (bullet : Char) (root : Node) (h : root.BreaksBare) :
    root.textContent.toList.Sublist (write bullet root).toList := by
  rw [write_eq_written]
  exact within_written h [] .root

theorem textContent_sublist_write_aside :
    let root := Kind.root.node [
      Child.node "Aside" ∅ [.text "a\nb"],
      Kind.blockQuote.node [.text "\n c", Kind.softBreak.node []],
      Kind.orderedList.node [Kind.listItem.node [.text "d\ne", Kind.code.node [.text "`f"]]]]
    root.BreaksBare ∧ root.textContent = "a\nb\n cd\ne`f" ∧
      write '*' root = "a\nb\n\n>\n>  c\n>\n>\n>\n\n1. d\n   e\n   `` `f ``" ∧
      "a\nb\n cd\ne`f".toList.Sublist
        "a\nb\n\n>\n>  c\n>\n>\n>\n\n1. d\n   e\n   `` `f ``".toList := by
  intro root
  have hbare : root.BreaksBare := by
    simp [root, Node.BreaksBare, Child.BreaksBare, Child.AllBreaksBare, Child.ofNode, Kind.node,
      Kind.name, Child.textOfAll]
  have htext : root.textContent = "a\nb\n cd\ne`f" := by decide +kernel
  have hwritten : write '*' root =
      "a\nb\n\n>\n>  c\n>\n>\n>\n\n1. d\n   e\n   `` `f ``" := by
    decide +kernel
  have hsublist := textContent_sublist_write '*' root hbare
  rw [htext, hwritten] at hsublist
  exact ⟨hbare, htext, hwritten, hsublist⟩

end DocBridge.Markdown.Writer

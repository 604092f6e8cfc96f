import DocBridge.Proofs.Markdown.Enclosing
import DocBridge.Proofs.Pandoc.Grammar
import DocBridge.Proofs.Tree.Agreement

/-!
# What outputs show of a tree

Text, diagram, Markdown and document of a tree depend on nothing but its shape, its names and texts,
and the attributes that are shown at nodes of their kinds. For Markdown this is a statement about
each handler, since the walk over the tree is that of any traversal. A document is made place by
place, and an error is part of what two trees have in common: it names the node that is out of place
and not what that node holds.
-/

namespace DocBridge

variable {a b n n' : Node} {c d : Child} {kind : Kind}

/-! ### Markdown -/

namespace Markdown.Writer

variable {bullet : Char} {siblings siblings' : Siblings}

theorem isLoose_eq_of_alike {R : String → Attributes → Attributes → Prop}
    (h : Child.Alike R c d) : isLoose c = isLoose d := by
  cases h with
  | text s => rfl
  | node _ hchildren =>
      rw [isLoose, isLoose]
      induction hchildren with
      | nil => rfl
      | cons hcd _ ih =>
          rw [List.any_cons, List.any_cons, ih]
          cases hcd <;> rfl

theorem separator_eq_of_alike {R : String → Attributes → Attributes → Prop}
    (h : Child.Alike R n n') (hsiblings : Siblings.Alike R siblings siblings') :
    separator n siblings = separator n' siblings' := by
  have hnext := hsiblings.next?_rel
  unfold separator
  generalize siblings.next? = next, siblings'.next? = next' at hnext
  cases hnext with
  | none => rfl
  | some hnext => simp only [isLoose_eq_of_alike h, isLoose_eq_of_alike hnext]

/-- The handler of a kind makes the same of two nodes that agree. -/
theorem handler_eq_of_agree (hname : n.name = kind.name) (h : n.Agree n')
    (hsiblings : Siblings.Alike Attributes.AgreeAt siblings siblings')
    (children : Writing (List String)) :
    handler bullet kind n siblings children = handler bullet kind n' siblings' children := by
  have hstring {key : String} (hkey : key ∈ kind.shown) : n.string? key = n'.string? key :=
    h.string?_eq hname hkey
  have hnatural {key : String} (hkey : key ∈ kind.shown) : n.natural? key = n'.natural? key :=
    h.natural?_eq hname hkey
  cases kind with
  | root | para | plain | blockQuote | bulletList | emph | strong | softBreak | lineBreak => rfl
  | header => simp only [handler, headingMark, hnatural (.head _)]
  | codeBlock => simp only [handler, hstring (.head _), h.textContent_eq]
  | orderedList =>
      simp only [handler, Marker.ofOrderedList, hnatural (.head _), hstring (.tail _ (.head _))]
  | listItem =>
      simp only [handler, hsiblings.1, isLoose_eq_of_alike h, separator_eq_of_alike h hsiblings]
  | mathBlock | code | math => simp only [handler, h.textContent_eq]
  | link | image =>
      simp only [handler, linkTarget, hstring (.head _), hstring (.tail _ (.head _))]

theorem write_eq_of_agree (h : a.Agree b) (bullet : Char) : write bullet a = write bullet b := by
  have hrun : (traversal bullet).run a = (traversal bullet).run b := by
    apply Traversal.child_eq_of_alike _ h (Siblings.alike_root _)
    intro n n' siblings siblings' children hagree hsiblings
    have hname : n.name = n'.name := Node.Agree.name_eq hagree
    rw [← hname]
    obtain hfallback | ⟨kind, hkind, hhandler⟩ := handler_cases bullet n.name
    · rw [hfallback]
      rfl
    · rw [hhandler]
      exact handler_eq_of_agree hkind hagree hsiblings children
  have htry : tryWrite bullet a = tryWrite bullet b := by
    rw [tryWrite, tryWrite, tree, tree, hrun]
  rw [tryWrite_eq, tryWrite_eq] at htry
  exact Except.ok.inj htry

end Markdown.Writer

/-! ### Documents -/

namespace Pandoc

theorem element_eq_of_agree (hname : n.name = kind.name) (h : n.Agree n')
    (inner : List Json.Value) : element kind n inner = element kind n' inner := by
  have hstring {key : String} (hkey : key ∈ kind.shown) : n.string? key = n'.string? key :=
    h.string?_eq hname hkey
  have hnatural {key : String} (hkey : key ∈ kind.shown) : n.natural? key = n'.natural? key :=
    h.natural?_eq hname hkey
  cases kind with
  | root | listItem | para | plain | blockQuote | bulletList | emph | strong | softBreak
  | lineBreak => rfl
  | header => simp only [element, hnatural (.head _)]
  | codeBlock => simp only [element, hstring (.head _), h.textContent_eq]
  | orderedList =>
      simp only [element, delimiterTag, hnatural (.head _), hstring (.tail _ (.head _))]
  | mathBlock | code | math => simp only [element, h.textContent_eq]
  | link | image => simp only [element, hstring (.head _), hstring (.tail _ (.head _))]

theorem allValuesOf_eq_of_forall₂ {children children' : List Child} (parent : String)
    (place : Place)
    (h : List.Forall₂ (fun c d => ∀ parent place, valuesOf parent place c = valuesOf parent place d)
      children children') :
    allValuesOf parent place children = allValuesOf parent place children' := by
  induction h with
  | nil => rfl
  | cons hcd _ ih => rw [allValuesOf_cons, allValuesOf_cons, hcd parent place, ih]

theorem valuesOf_eq_of_alike (h : Child.Alike Attributes.AgreeAt c d) (parent : String)
    (place : Place) : valuesOf parent place c = valuesOf parent place d := by
  induction h using Child.Alike.induction generalizing parent place with
  | text s => rfl
  | @node name attributes attributes' children children' hattributes hchildren ih =>
      by_cases hkind : ∃ kind : Kind, kind.name = name ∧ place? kind = some place
      · obtain ⟨kind, rfl, hplace⟩ := hkind
        have hagree : Node.Agree ⟨kind.name, attributes, children⟩
            ⟨kind.name, attributes', children'⟩ := .node hattributes hchildren
        have hinner : innerValues kind children = innerValues kind children' := by
          unfold innerValues
          split
          · apply allValuesOf_eq_of_forall₂
            refine ih.imp ?_
            rintro c d ⟨-, hcd⟩
            exact hcd
          · rfl
        rw [valuesOf_node hplace, valuesOf_node hplace, hinner]
        simp only [element_eq_of_agree rfl hagree]
      · have hmisplaced (kind : Kind) (hname : kind.name = name) : place? kind ≠ some place :=
          fun hplace => hkind ⟨kind, hname, hplace⟩
        rw [valuesOf_misplaced hmisplaced, valuesOf_misplaced hmisplaced]

theorem document_eq_of_agree (h : a.Agree b) (version : Version) :
    document version a = document version b := by
  have hblocks : blockValues a.children = blockValues b.children :=
    allValuesOf_eq_of_forall₂ a.name .block
      (h.forall₂_children.imp fun _ _ hcd => valuesOf_eq_of_alike hcd)
  rw [document, document, hblocks]

end Pandoc

/-! ### All outputs -/

/-- No output tells two trees apart. -/
structure Node.SameOutputs (a b : Node) : Prop where
  textContent : a.textContent = b.textContent
  diagram : ∀ limit, a.diagram limit = b.diagram limit
  markdown : ∀ bullet, Markdown.write bullet a = Markdown.write bullet b
  document : ∀ version, Pandoc.document version a = Pandoc.document version b

theorem Node.Agree.sameOutputs (h : a.Agree b) : a.SameOutputs b where
  textContent := h.textContent_eq
  diagram := Node.diagram_eq_of_alike h
  markdown := Markdown.Writer.write_eq_of_agree h
  document := Pandoc.document_eq_of_agree h

/-- Trees of one shape with the same names and texts that agree on the attributes shown at their
nodes are the same to all outputs, errors included, however they differ in other attributes. In
particular this holds of equal trees. -/
theorem Node.sameOutputs_of_agree_or_same (a b : Node) :
    (a.Agree b → a.SameOutputs b) ∧ (a.same b = true → a.SameOutputs b) :=
  ⟨Agree.sameOutputs, fun h => (agree_of_same h).sameOutputs⟩

theorem Node.sameOutputs_of_agree_or_same_header :
    let heading (attributes : Attributes) : Child := .node "Header" attributes [.text "a"]
    let level := Attributes.empty.insert "level" (.natural 2)
    let titled : Node :=
      ⟨"root", Attributes.empty.insert "m" (.ofMembers [("title", .string "b")]),
        [heading (level.insert "lang" (.string "c"))]⟩
    let empty : Node := ⟨"root", Attributes.empty.insert "m" (.object []), [heading level]⟩
    let bare : Node := ⟨"root", ∅, [heading level]⟩
    (titled.Agree bare ∧ titled.same bare = false ∧ titled.SameOutputs bare) ∧
      empty.same bare = true ∧ empty.SameOutputs bare := by
  intro heading level titled empty bare
  have hroot (left right : Attributes) : Attributes.AgreeAt "root" left right := by
    intro kind hname key hkey
    obtain rfl := Kind.name_injective (b := .root) hname
    cases hkey
  have hheading : Attributes.AgreeAt "Header" (level.insert "lang" (.string "c")) level := by
    intro kind hname key hkey
    obtain rfl := Kind.name_injective (b := .header) hname
    obtain rfl := List.mem_singleton.mp hkey
    exact .some rfl
  have hagree : titled.Agree bare :=
    .node (hroot _ _) (.cons (.node hheading (.cons (.text "a") .nil)) .nil)
  have hsame : empty.same bare = true := by decide +kernel
  exact ⟨⟨hagree, by decide +kernel, (sameOutputs_of_agree_or_same titled bare).1 hagree⟩, hsame,
    (sameOutputs_of_agree_or_same empty bare).2 hsame⟩

end DocBridge

import DocBridge.Proofs.Markdown.Tree
import DocBridge.Proofs.Pandoc.Imported

/-!
# Documents that are stable

A document is left as it is when it is imported and exported again, whatever the tree was like from
which it was made, as long as no text leaves touched in it. What becomes of a tree differs from it,
in its texts and attributes, but only in what a document does not keep: pieces of a text are cut
from its leaves again, and attributes that were filled in are those that were written before.
-/

namespace DocBridge.Pandoc

section Settled

variable {parent : String} {place : Place} {kind : Kind} {n : Node} {c : Child}
  {children others : List Child} {values first rest : List Json.Value}

theorem allValuesOf_append (hfirst : allValuesOf parent place children = .ok first)
    (hrest : allValuesOf parent place others = .ok rest) :
    allValuesOf parent place (children ++ others) = .ok (first ++ rest) := by
  induction children generalizing first with
  | nil =>
      obtain rfl : [] = first := Except.ok.inj (allValuesOf_nil.symm.trans hfirst)
      exact hrest
  | cons c children ih =>
      obtain ⟨values, more, hc, hmore, rfl⟩ := exists_append_of_allValuesOf hfirst
      rw [List.cons_append, allValuesOf_cons, hc, ih hmore, List.append_assoc]
      rfl

theorem allValuesOf_singleton : allValuesOf parent place [c] = valuesOf parent place c := by
  rw [allValuesOf_cons, allValuesOf_nil]
  cases valuesOf parent place c with
  | error e => rfl
  | ok values => exact congrArg Except.ok (List.append_nil values)

/-! ### Texts -/

/-- Children that pieces may become are exported as the pieces that they give again. -/
theorem inlineValues_eq_again (h : ∀ c ∈ children, c.IsText ∨ c = Piece.softBreak.child) :
    inlineValues children = .ok ((children.flatMap Piece.again).map pieceValue) := by
  induction children with
  | nil => simp [inlineValues]
  | cons c children ih =>
      obtain ⟨hc, hchildren⟩ := List.forall_mem_cons.mp h
      have hvalue : inlineValue c = .ok ((Piece.again c).map pieceValue) := by
        obtain htext | rfl := hc
        · cases c with
          | text s => rw [inlineValue, textValues, Piece.again]
          | node name attributes below => exact absurd htext (Child.not_isText_node _ _ _)
        · rfl
      rw [inlineValues, hvalue, ih hchildren, List.flatMap_cons, List.map_append]
      rfl

theorem inlineValues_fragments (s : String) : inlineValues (fragments s) = .ok (textValues s) := by
  have hchild (p : Piece) : p.child.IsText ∨ p.child = Piece.softBreak.child := by
    cases p with
    | word text => exact .inl trivial
    | space => exact .inl trivial
    | softBreak => exact .inr rfl
  have hall : ∀ c ∈ fragments s, c.IsText ∨ c = Piece.softBreak.child := by
    rw [fragments]
    generalize Piece.ofText s.toList = pieces
    induction pieces with
    | nil => simp
    | cons p pieces ih =>
        exact Child.forall_mem_join (fun _ _ _ _ => .inl trivial) (hchild p) ih
  rw [inlineValues_eq_again hall, fragments,
    flatMap_again_foldr_join (Piece.alternate_ofText s.toList), textValues]

/-! ### Nodes -/

theorem textContent_settledBelow (hinterior : interior kind = .verbatim) :
    Child.textOfAll (settledBelow kind children) = Child.textOfAll children := by
  simp [settledBelow, hinterior, Child.textOfAll, Child.textContent]

/-- What a document says of a node does not change when it is said of what becomes of the node. -/
theorem element_settled (kind : Kind) (n : Node) (inner : List Json.Value) :
    element kind ⟨kind.name, settledAttributes kind n, settledBelow kind n.children⟩ inner =
      element kind n inner := by
  generalize hm : (⟨kind.name, settledAttributes kind n, settledBelow kind n.children⟩ : Node) = m
  have htext (hinterior : interior kind = .verbatim) : m.textContent = n.textContent :=
    hm ▸ textContent_settledBelow hinterior
  cases kind
  case header =>
    have hfound : m.attribute? "level" = some (.natural ((n.natural? "level").getD 1)) := hm ▸ rfl
    rw [element, Node.natural?, hfound, Option.bind_some, natural?_getD, Option.getD_some, element]
  case codeBlock =>
    have hlang : m.string? "lang" = n.string? "lang" := by
      subst hm
      rw [settledAttributes]
      cases n.string? "lang" <;> rfl
    rw [element, htext rfl, hlang, element]
  case orderedList =>
    have hfound : m.attribute? "start" = some (.natural ((n.natural? "start").getD 1)) := hm ▸ rfl
    have hdelimiter : delimiterTag m = delimiterTag n := by
      have hstring : m.string? "delimiter" =
          some (if n.string? "delimiter" = some ")" then ")" else ".") := hm ▸ rfl
      rw [delimiterTag, hstring, delimiterTag]
      by_cases h : n.string? "delimiter" = some ")" <;> simp [h]
    rw [element, Node.natural?, hfound, hdelimiter, Option.bind_some, natural?_getD,
      Option.getD_some, element]
  case link | image =>
    have htarget : (m.string? "url").getD "" = (n.string? "url").getD "" ∧
        (m.string? "title").getD "" = (n.string? "title").getD "" := by
      subst hm
      rw [settledAttributes]
      by_cases h : (n.string? "title").getD "" = ""
      · simp only [h, if_true]
        exact ⟨rfl, rfl⟩
      · simp only [h, if_false]
        exact ⟨rfl, rfl⟩
    rw [element, htarget.1, htarget.2, element]
  case code | math | mathBlock => rw [element, htext rfl, element]
  all_goals rfl

/-- Where texts do not touch, each child becomes what it becomes on its own. -/
theorem allSettled_cons (happart : Child.TextsApart (c :: children))
    (hexp : AllExportable place (c :: children)) :
    allSettled (c :: children) = (settled c).foldr Child.join [] ++ allSettled children := by
  rw [allSettled]
  cases c with
  | text s =>
      refine Child.foldr_join_append (head?_allSettled hexp.2 fun d hd htext => ?_) _
      exact (Child.textsApart_cons.mp happart).1 d hd ⟨trivial, htext⟩
  | node name attributes below =>
      obtain ⟨kind, rfl, -, -⟩ := hexp.1
      rw [settled_node]
      rfl

end Settled

mutual

/-- What becomes of a child has the values of the child. -/
theorem allValuesOf_settled {parent : String} {place : Place} {values : List Json.Value} :
    (c : Child) → c.Merged → valuesOf parent place c = .ok values →
      allValuesOf parent place ((settled c).foldr Child.join []) = .ok values
  | .text s, _, h => by
      by_cases hplace : place = .inline
      · subst hplace
        obtain rfl : textValues s = values := Except.ok.inj h
        rw [settled_text]
        exact inlineValues_fragments s
      · obtain ⟨fault, hfault⟩ := valuesOf_text_eq_error s hplace
        rw [hfault] at h
        simp at h
  | .node name attributes children, hmerged, h => by
      obtain ⟨kind, inner, rfl, hplace, hinner, rfl⟩ := exists_element_of_valuesOf h
      -- The induction goes down only where children are kept, and text below code has no values.
      have hbelow : innerValues kind (settledBelow kind children) = .ok inner := by
        unfold innerValues settledBelow at *
        cases hinterior : interior kind with
        | only below =>
            simp only [hinterior] at hinner
            exact allValuesOf_allSettled children hmerged.1 hmerged.2 hinner
        | verbatim => simpa only [hinterior] using hinner
        | nothing => simpa only [hinterior] using hinner
      rw [settled_node, List.foldr_cons, List.foldr_nil, Child.join_eq_cons (by simp),
        allValuesOf_singleton, valuesOf_node hplace, hbelow]
      exact congrArg (fun v => Except.ok [v])
        (element_settled kind ⟨kind.name, attributes, children⟩ inner)

theorem allValuesOf_allSettled {parent : String} {place : Place} {values : List Json.Value} :
    (children : List Child) → Child.TextsApart children → Child.AllMerged children →
      allValuesOf parent place children = .ok values →
        allValuesOf parent place (allSettled children) = .ok values
  | [], _, _, h => by rwa [allSettled]
  | c :: rest, happart, hmerged, h => by
      obtain ⟨first, others, hfirst, hothers, rfl⟩ := exists_append_of_allValuesOf h
      have hrest := (Child.textsApart_cons.mp happart).2
      rw [allSettled_cons happart ((allExportable_iff parent place _).mpr ⟨_, h⟩)]
      exact allValuesOf_append (allValuesOf_settled c hmerged.1 hfirst)
        (allValuesOf_allSettled rest hrest hmerged.2 hothers)

end

/-- A document of a merged tree is the document of what it is imported as. -/
theorem document_settled {version : Version} {root : Node} {v : Json.Value} (hmerged : root.Merged)
    (h : document version root = .ok v) :
    document version (Kind.root.node (allSettled root.children)) = .ok v := by
  obtain ⟨blocks, hblocks, rfl⟩ := document_eq_ok_iff.mp h
  have hvalues : allValuesOf root.name .block root.children = .ok blocks := hblocks
  have hsettled : allValuesOf root.name .block (allSettled root.children) = .ok blocks :=
    allValuesOf_allSettled root.children hmerged.1 hmerged.2 hvalues
  exact document_eq_ok_iff.mpr ⟨blocks, hsettled, rfl⟩

/-- A document of a merged tree is left as it is when it is imported and exported again. The trees
of documents are merged, and so are those of Markdown texts. -/
theorem document_stable :
    (∀ (v : Json.Value) (root : Node), tree v = .ok root → root.Merged) ∧
      (∀ source : String, (Markdown.read source).Merged) ∧
      ∀ (version : Version) (root : Node) (v : Json.Value), root.Merged →
        document version root = .ok v →
          ∃ restored, tree v = .ok restored ∧ document version restored = .ok v := by
  refine ⟨fun v root h => ?_, Markdown.merged_read, fun version root v hmerged h => ?_⟩
  · obtain ⟨blocks, rfl, hblocks⟩ := allShaped_of_tree h
    exact hblocks.merged
  · exact ⟨_, tree_of_document h, document_settled hmerged h⟩

/-- A heading with a level that is no number and text with all sorts of blanks. -/
def untidy : Node := Kind.root.node
  [.node Kind.header.name (.ofEntries [("level", .string "2"), ("note", .null)])
    [.text " a\t\n b ", .node Kind.emph.name ∅ [.text ""], .text "c"]]

theorem document_stable_untidy : untidy.Merged ∧
    ∃ v restored, document defaultVersion untidy = .ok v ∧ tree v = .ok restored ∧
      document defaultVersion restored = .ok v := by
  have hmerged : untidy.Merged := by
    simp [untidy, Node.Merged, Child.ofNode, Kind.node, Child.Merged, Child.AllMerged,
      Child.TextsApart]
  obtain ⟨v, hv⟩ : ∃ v, document defaultVersion untidy = .ok v := ⟨_, rfl⟩
  obtain ⟨restored, hrestored, hagain⟩ :=
    document_stable.2.2 defaultVersion untidy v hmerged hv
  exact ⟨hmerged, v, restored, hv, hrestored, hagain⟩

end DocBridge.Pandoc

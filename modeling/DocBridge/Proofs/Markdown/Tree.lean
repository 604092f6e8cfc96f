import DocBridge.Markdown.Reader
import DocBridge.Proofs.Markdown.Outline
import DocBridge.Proofs.Pandoc.Shape

/-!
# Trees of Markdown texts are in shape

Whatever the blocks and inlines of a document are, their nodes stand in their places, have the
attributes that a Pandoc document keeps, and no texts touch in them. This asks of a document only
that its levels and markers fit, as those of a text do.
-/

namespace DocBridge.Markdown

open Pandoc

/-! ### Text read as inlines -/

section Traverse

variable {α β σ : Type} (f : α → StateM σ β)

mutual

/-- Levels and markers stay when the text in blocks is read. -/
theorem Block.Fits.traverse : (b : Block α) → b.Fits → (s : σ) →
    (Block.traverse f b s).1.Fits
  | .paragraph content, _, s => .paragraph (f content s).1
  | .heading level content, h, s => by
      cases h with
      | heading hlevel => exact .heading hlevel (f content s).1
  | .code language text, _, _ => .code language text
  | .quote blocks, h, s => by
      cases h with
      | quote hblocks => exact .quote (Block.fits_traverseAll blocks hblocks s)
  | .list marker isTight items, h, s => by
      cases h with
      | list hmarker _ hitems =>
          exact .list hmarker isTight (Block.fits_traverseItems items hitems s)
  | .rule, _, _ => .rule
  | .html, _, _ => .html

theorem Block.fits_traverseAll : (blocks : List (Block α)) → (∀ b ∈ blocks, b.Fits) →
    (s : σ) → ∀ b ∈ (Block.traverseAll f blocks s).1, b.Fits
  | [], _, _ => fun _ hb => absurd hb List.not_mem_nil
  | b :: rest, h, s => by
      obtain ⟨hb, hrest⟩ := List.forall_mem_cons.mp h
      exact List.forall_mem_cons.mpr ⟨Block.Fits.traverse b hb s,
        Block.fits_traverseAll rest hrest (Block.traverse f b s).2⟩

theorem Block.fits_traverseItems : (items : List (List (Block α))) →
    (∀ item ∈ items, ∀ b ∈ item, b.Fits) → (s : σ) →
      ∀ item ∈ (Block.traverseItems f items s).1, ∀ b ∈ item, b.Fits
  | [], _, _ => fun _ hitem => absurd hitem List.not_mem_nil
  | item :: rest, h, s => by
      obtain ⟨hitem, hrest⟩ := List.forall_mem_cons.mp h
      exact List.forall_mem_cons.mpr ⟨Block.fits_traverseAll item hitem s,
        Block.fits_traverseItems rest hrest (Block.traverseAll f item s).2⟩

end

end Traverse

theorem fits_readDocument (source : String) : ∀ b ∈ readDocument source, b.Fits :=
  Block.fits_traverseAll _ _ (Outline.fits_read source) _

/-! ### Attributes -/

theorem attributesFit_list {marker : Marker} (h : marker.Fits) :
    AttributesFit (listKind marker) (listAttributes marker).essential := by
  cases marker with
  | bullet c => rfl
  | ordered start delimiter =>
      refine attributesFit_numbering h.1 ?_
      obtain rfl | rfl := h.2
      · exact .inl rfl
      · exact .inr rfl

/-! ### Inlines -/

mutual

theorem Inline.shaped : (i : Inline) → ∀ c ∈ i.toChild?, Shaped .inline c
  | .text s, c, hc => by
      obtain rfl := Option.some.inj hc
      exact .text s
  | .softBreak, c, hc => by
      obtain rfl := Option.some.inj hc
      exact .empty rfl rfl rfl
  | .lineBreak, c, hc => by
      obtain rfl := Option.some.inj hc
      exact .empty rfl rfl rfl
  | .emph children, c, hc => by
      obtain rfl := Option.some.inj hc
      exact (Inline.allShaped children).node rfl rfl rfl
  | .strong children, c, hc => by
      obtain rfl := Option.some.inj hc
      exact (Inline.allShaped children).node rfl rfl rfl
  | .code s, c, hc => by
      obtain rfl := Option.some.inj hc
      exact .verbatim rfl rfl rfl
  | .math _ s, c, hc => by
      obtain rfl := Option.some.inj hc
      exact .verbatim rfl rfl rfl
  | .link url title children, c, hc => by
      obtain rfl := Option.some.inj hc
      exact (Inline.allShaped children).node rfl rfl (attributesFit_target url title)
  | .image url title children, c, hc => by
      obtain rfl := Option.some.inj hc
      exact (Inline.allShaped children).node rfl rfl (attributesFit_target url title)
  | .html, c, hc => by simp [Inline.toChild?] at hc

theorem Inline.allShaped : (inlines : List Inline) → AllShaped .inline (Inline.toChildren inlines)
  | [] => allShaped_nil
  | i :: rest => by
      rw [Inline.toChildren]
      split
      · next c hc => exact .join (Inline.shaped i c hc) (Inline.allShaped rest)
      · exact Inline.allShaped rest

end

theorem shaped_paragraphNode (isPlain : Bool) (inlines : List Inline) :
    Shaped .block (paragraphNode isPlain inlines) := by
  unfold paragraphNode
  split
  · exact .verbatim rfl rfl rfl
  · cases isPlain <;> exact (Inline.allShaped inlines).node rfl rfl rfl

/-! ### Blocks -/

mutual

theorem Block.shaped (isPlain : Bool) : (b : Block (List Inline)) → b.Fits →
    ∀ c ∈ b.toChild? isPlain, Shaped .block c
  | .paragraph inlines, _, c, hc => by
      obtain rfl := Option.some.inj hc
      exact shaped_paragraphNode isPlain inlines
  | .heading level inlines, h, c, hc => by
      obtain rfl := Option.some.inj hc
      cases h with
      | heading hlevel =>
          exact (Inline.allShaped inlines).node rfl rfl ⟨level, hlevel, rfl⟩
  | .code language text, _, c, hc => by
      obtain rfl := Option.some.inj hc
      refine .verbatim rfl rfl ?_
      cases language with
      | none => exact .inl rfl
      | some word => exact .inr ⟨word, rfl⟩
  | .quote blocks, h, c, hc => by
      obtain rfl := Option.some.inj hc
      cases h with
      | quote hblocks => exact (Block.allShaped false blocks hblocks).node rfl rfl rfl
  | .list marker isTight items, h, c, hc => by
      obtain rfl := Option.some.inj hc
      cases h with
      | list hmarker _ hitems =>
          refine AllShaped.node ?_ ?_ (attributesFit_list hmarker)
            (Block.allShaped_items isTight items hitems)
          · cases marker <;> rfl
          · cases marker <;> rfl
  | .rule, _, c, hc => by simp [Block.toChild?] at hc
  | .html, _, c, hc => by simp [Block.toChild?] at hc

theorem Block.allShaped (isPlain : Bool) : (blocks : List (Block (List Inline))) →
    (∀ b ∈ blocks, b.Fits) → AllShaped .block (Block.toChildren isPlain blocks)
  | [], _ => allShaped_nil
  | b :: rest, h => by
      obtain ⟨hb, hrest⟩ := List.forall_mem_cons.mp h
      have hshaped := Block.shaped isPlain b hb
      rw [Block.toChildren]
      cases hchild : b.toChild? isPlain with
      | none => exact Block.allShaped isPlain rest hrest
      | some c => exact .cons nofun (hshaped c hchild) (Block.allShaped isPlain rest hrest)

theorem Block.allShaped_items (isTight : Bool) : (items : List (List (Block (List Inline)))) →
    (∀ item ∈ items, ∀ b ∈ item, b.Fits) → AllShaped .item (Block.itemChildren isTight items)
  | [], _ => allShaped_nil
  | item :: rest, h => by
      obtain ⟨hitem, hrest⟩ := List.forall_mem_cons.mp h
      have hplace : place? .listItem = some .item := rfl
      exact .cons nofun ((Block.allShaped isTight item hitem).node hplace rfl rfl)
        (Block.allShaped_items isTight rest hrest)

end

/-- The blocks in the tree of a text are in shape. -/
theorem allShaped_read (source : String) : AllShaped .block (read source).children :=
  Block.allShaped false _ (fits_readDocument source)

theorem merged_read (source : String) : (read source).Merged := (allShaped_read source).merged

/-- The tree of a text has a document, which is the document of a tree. -/
theorem exists_document_read (version : Version) (source : String) :
    ∃ v root, document version (read source) = .ok v ∧ Pandoc.tree v = .ok root := by
  obtain ⟨v, root, hv, hroot, -⟩ := (allShaped_read source).round_trip version
  exact ⟨v, root, hv, hroot⟩

/-- The tree of a text is exported and imported again, and what comes back is equal to it exactly
when all text in it is plain that is not below code or formulas. So it is for every document of
blocks and inlines, if its levels and markers fit. -/
theorem read_round_trip (version : Version) :
    (∀ source, ∃ v restored, document version (read source) = .ok v ∧
      Pandoc.tree v = .ok restored ∧
        (restored.same (read source) = true ↔ AllPlainTexts (read source).children)) ∧
    ∀ blocks : Document, (∀ b ∈ blocks, b.Fits) →
      ∃ v restored, document version blocks.tree = .ok v ∧ Pandoc.tree v = .ok restored ∧
        (restored.same blocks.tree = true ↔ AllPlainTexts blocks.tree.children) := by
  refine ⟨fun source => (allShaped_read source).round_trip version, fun blocks h => ?_⟩
  exact (Block.allShaped false blocks h).round_trip version

theorem read_round_trip_list :
    let blocks : Document := [.heading 2 [.text "a  b"], .list (.ordered 7 ')') true
      [[.paragraph [.link "u" "" [.code "c  d"], .softBreak, .text "e"]]]]
    (∀ b ∈ blocks, b.Fits) ∧ ∃ v restored, document defaultVersion blocks.tree = .ok v ∧
      Pandoc.tree v = .ok restored ∧ restored.same blocks.tree = false := by
  intro blocks
  have hitem : ∀ item ∈ [[Block.paragraph [Inline.link "u" "" [.code "c  d"], .softBreak,
      .text "e"]]], ∀ b ∈ item, b.Fits := by
    simpa using Block.Fits.paragraph _
  have hmarker : (Marker.ordered 7 ')').Fits := ⟨by decide, .inr rfl⟩
  have hfits : ∀ b ∈ blocks, b.Fits :=
    List.forall_mem_cons.mpr ⟨.heading (by decide) _,
      List.forall_mem_singleton.mpr (.list hmarker true hitem)⟩
  obtain ⟨v, restored, hv, hrestored, hsame⟩ := (read_round_trip defaultVersion).2 blocks hfits
  have hplain : ¬AllPlainTexts blocks.tree.children := by
    intro h
    have hheading : PlainTexts (.node Kind.header.name (Attributes.empty.insert "level"
      (.natural 2)) [.text "a  b"]) := h.1
    rw [plainTexts_node_iff] at hheading
    simp [Pandoc.interior, AllPlainTexts, PlainTexts, IsPlain] at hheading
  exact ⟨hfits, v, restored, hv, hrestored, by simpa [hplain] using hsame⟩

end DocBridge.Markdown

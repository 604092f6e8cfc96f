import DocBridge.Proofs.Markdown.Marks

/-!
# Levels and markers of open blocks

Levels and markers fit in the open blocks and in the blocks that were closed into them, and a line
keeps this. It is shown for each way in which a line changes an outline, which is to begin blocks,
to add to them, to close them into others or to mark them as ending in a blank line, and so for all
lines of a text. When the last block is closed, it holds of the blocks that are handed out.
-/

namespace DocBridge.Markdown

variable {closed : Closed} {children : List Closed} {container parent : Container}
  {containers : List Container} {leaf : Leaf} {o : Outline}

def Closed.Fits (closed : Closed) : Prop := ∀ b ∈ closed.block, b.Fits

theorem fits_of_mem_blocksOf (h : ∀ c ∈ children, c.Fits) :
    ∀ b ∈ blocksOf children, b.Fits := by
  intro b hb
  obtain ⟨c, hc, hblock⟩ := List.mem_filterMap.mp hb
  exact h c (List.mem_reverse.mp hc) b hblock

/-! ### Containers -/

namespace Container

def Fits : Container → Prop
  | document children | quote children | item _ children => ∀ c ∈ children, c.Fits
  | list marker items => marker.Fits ∧ ∀ item ∈ items, ∀ c ∈ item.children, c.Fits

theorem fits_of_mem_children (h : container.Fits) : ∀ c ∈ container.children, c.Fits := by
  cases container with
  | document children | quote children | item width children => exact h
  | list marker items => simp [children]

theorem Fits.add (h : container.Fits) (hclosed : closed.Fits) :
    (container.add closed).Fits := by
  cases container with
  | document children | quote children | item width children =>
      exact List.forall_mem_cons.mpr ⟨hclosed, h⟩
  | list marker items => exact h

theorem Fits.closeInto (h : container.Fits) (hparent : parent.Fits) (endsBlank : Bool) :
    (container.closeInto endsBlank parent).Fits := by
  cases container with
  | document children => exact hparent
  | quote children =>
      refine hparent.add fun b hb => ?_
      obtain rfl := Option.some.inj hb
      exact .quote (fits_of_mem_blocksOf h)
  | list marker items =>
      refine hparent.add fun b hb => ?_
      obtain rfl := Option.some.inj hb
      refine .list h.1 _ fun item hitem => ?_
      obtain ⟨closedItem, hmem, rfl⟩ := List.mem_map.mp hitem
      exact fits_of_mem_blocksOf (h.2 closedItem (List.mem_reverse.mp hmem))
  | item width children =>
      cases parent with
      | document _ | quote _ | item _ _ => exact hparent
      | list marker items => exact ⟨hparent.1, List.forall_mem_cons.mpr ⟨h, hparent.2⟩⟩

theorem Fits.markLastBlank (h : container.Fits) : container.markLastBlank.Fits := by
  cases container with
  | document children | quote children | item width children =>
      cases children with
      | nil => exact h
      | cons last rest =>
          obtain ⟨hlast, hrest⟩ := List.forall_mem_cons.mp h
          exact List.forall_mem_cons.mpr ⟨hlast, hrest⟩
  | list marker items =>
      cases items with
      | nil => exact h
      | cons last rest =>
          obtain ⟨hlast, hrest⟩ := List.forall_mem_cons.mp h.2
          exact ⟨h.1, List.forall_mem_cons.mpr ⟨hlast, hrest⟩⟩

end Container

/-! ### Leaves -/

namespace Leaf

def Fits : Leaf → Prop
  | heading level _ => level < UInt64.size
  | _ => True

theorem Fits.close (h : leaf.Fits) (references : References) :
    ∀ b ∈ (leaf.close references).1, b.Fits := by
  intro b hb
  cases leaf with
  | paragraph text =>
      rw [Leaf.close] at hb
      dsimp only at hb
      split at hb
      · simp at hb
      · obtain rfl := Option.some.inj hb
        exact .paragraph _
  | heading level text =>
      obtain rfl := Option.some.inj hb
      exact .heading h text
  | fenced | indented =>
      obtain rfl := Option.some.inj hb
      exact .code _ _
  | html opening =>
      obtain rfl := Option.some.inj hb
      exact .html
  | rule =>
      obtain rfl := Option.some.inj hb
      exact .rule

end Leaf

/-! ### Outlines -/

namespace Outline

structure Fits (o : Outline) : Prop where
  containers : ∀ c ∈ o.containers, c.Fits
  leaf : ∀ leaf ∈ o.leaf, leaf.Fits

theorem fits_empty : Fits empty := ⟨by simp [empty, Container.Fits], by simp [empty]⟩

theorem Fits.push (h : o.Fits) (hcontainer : container.Fits) :
    (o.push container).Fits :=
  ⟨List.forall_mem_cons.mpr ⟨hcontainer, h.containers⟩, h.leaf⟩

theorem Fits.withLeaf (h : o.Fits) (hleaf : leaf.Fits) : (o.withLeaf leaf).Fits :=
  ⟨h.containers, fun _ hl => Option.some.inj hl ▸ hleaf⟩

theorem fits_addToTop (h : ∀ c ∈ containers, c.Fits) (hclosed : closed.Fits) :
    ∀ c ∈ addToTop closed containers, c.Fits := by
  cases containers with
  | nil => exact h
  | cons top rest =>
      obtain ⟨htop, hrest⟩ := List.forall_mem_cons.mp h
      exact List.forall_mem_cons.mpr ⟨htop.add hclosed, hrest⟩

theorem Fits.closeLeaf (h : o.Fits) (keepsTrace endsBlank : Bool) :
    (o.closeLeaf keepsTrace endsBlank).Fits := by
  unfold Outline.closeLeaf
  split
  · exact h
  · next leaf hleaf =>
      refine ⟨?_, by simp⟩
      dsimp only
      split
      · exact fits_addToTop h.containers ((h.leaf leaf hleaf).close o.references)
      · exact h.containers

theorem Fits.closeTop (h : o.Fits) (endsBlank : Bool) : (o.closeTop endsBlank).Fits := by
  unfold Outline.closeTop
  split
  · next top parent rest hcontainers =>
      have hall := h.containers
      rw [hcontainers] at hall
      obtain ⟨htop, hall⟩ := List.forall_mem_cons.mp hall
      obtain ⟨hparent, hrest⟩ := List.forall_mem_cons.mp hall
      exact ⟨List.forall_mem_cons.mpr ⟨htop.closeInto hparent endsBlank, hrest⟩, h.leaf⟩
  · exact h

theorem Fits.closeContainers (h : o.Fits) (beforeBlank : Bool) (count : Nat) :
    (o.closeContainers beforeBlank count).Fits := by
  induction count generalizing o with
  | zero => exact h
  | succ count ih => exact ih (h.closeTop _)

theorem Fits.closeBlocks (h : o.Fits) (keepsTrace beforeBlank : Bool) (count : Nat) :
    (o.closeBlocks keepsTrace beforeBlank count).Fits :=
  (h.closeLeaf _ _).closeContainers _ _

theorem Fits.interrupt (h : o.Fits) (takesBlock : Container → Bool) (count : Nat) :
    (o.interrupt takesBlock count).Fits := by
  have hends (endsList : Bool) :
      (if endsList then (o.closeBlocks endsList false count).closeTop
          (o.closeBlocks endsList false count).endsBlank
        else o.closeBlocks endsList false count).Fits := by
    have hclosed := h.closeBlocks endsList false count
    split
    · exact hclosed.closeTop _
    · exact hclosed
  exact hends _

theorem Fits.addBlank (h : o.Fits) (count : Nat) : (o.addBlank count).Fits := by
  have hclosed := h.closeBlocks false true count
  unfold Outline.addBlank
  dsimp only
  split
  · exact hclosed
  · next top rest hcontainers =>
      have hall := hclosed.containers
      rw [hcontainers] at hall
      obtain ⟨htop, hrest⟩ := List.forall_mem_cons.mp hall
      refine ⟨List.forall_mem_cons.mpr ⟨?_, hrest⟩, hclosed.leaf⟩
      split
      · exact htop
      · exact htop.markLastBlank

theorem Fits.addText (h : o.Fits) (isInside : Bool) (count : Nat) (cursor : Cursor) :
    (o.addText isInside count cursor).Fits := by
  have hclosed := h.closeBlocks false false count
  unfold Outline.addText
  split
  · exact h.withLeaf trivial
  · dsimp only
    split
    · exact (hclosed.closeTop _).withLeaf trivial
    · exact hclosed.withLeaf trivial

theorem Fits.addHtml (h : o.Fits) (opening : Html.Opening) (cursor : Cursor) :
    (o.addHtml opening cursor).Fits := by
  have hopen : (o.withLeaf (.html opening)).Fits := h.withLeaf trivial
  unfold Outline.addHtml
  dsimp only
  split
  · exact hopen.closeLeaf false false
  · exact ⟨hopen.containers, hopen.leaf⟩

theorem Fits.underline (h : o.Fits) {level : Nat} (hlevel : level < UInt64.size) (cursor : Cursor) :
    (o.underline level cursor).Fits := by
  unfold Outline.underline
  split
  · dsimp only
    split
    · exact .withLeaf ⟨h.containers, h.leaf⟩ trivial
    · exact .withLeaf ⟨h.containers, h.leaf⟩ hlevel
  · exact h

theorem Fits.addBlocks (h : o.Fits) (isInside isFresh : Bool) (depth count : Nat)
    (cursor : Cursor) (bound : Nat) :
    (o.addBlocks isInside isFresh depth count cursor bound).Fits := by
  induction bound generalizing o isInside isFresh depth count cursor with
  | zero => exact h
  | succ bound ih =>
      unfold Outline.addBlocks
      dsimp only
      -- Items, headings and underlines bring levels and markers in, which are those of their line.
      split
      · exact ih ((h.interrupt _ _).push (by simp [Container.Fits])) _ _ _ _ _
      · next hstart =>
          have hmarker := BlockStart.fits_find? hstart
          refine ih (.push ?_ (by simp [Container.Fits])) _ _ _ _ _
          split
          · exact h.interrupt _ _
          · exact (h.interrupt _ _).push ⟨hmarker, by simp⟩
      · next hstart => exact (h.interrupt _ _).withLeaf (BlockStart.fits_find? hstart)
      · exact (h.interrupt _ _).withLeaf trivial
      · exact (h.interrupt _ _).addHtml _ _
      · next hstart => exact h.underline (BlockStart.fits_find? hstart) _
      · exact (h.interrupt _ _).withLeaf trivial
      · exact (h.interrupt _ _).withLeaf trivial
      · split
        · split
          · exact ⟨h.containers, h.leaf⟩
          · exact h.addBlank _
        · exact h.addText _ _ _

theorem Fits.addLine (h : o.Fits) (line : List Char) : (o.addLine line).Fits := by
  unfold Outline.addLine
  dsimp only
  split
  · exact h.addBlocks _ _ _ _ _ _
  · split
    · exact h.addBlocks _ _ _ _ _ _
    · split
      · exact h.addBlocks _ _ _ _ _ _
      · exact h.closeLeaf false false
      · exact h.withLeaf trivial
      · exact ⟨h.containers, fun _ hleaf => Option.some.inj hleaf ▸ trivial⟩
      · exact h.addHtml _ _
      · exact h.addBlocks _ _ _ _ _ _

theorem Fits.finish (h : o.Fits) : ∀ b ∈ o.finish.1, b.Fits := by
  intro b hb
  obtain ⟨container, hcontainer, hb⟩ := List.mem_flatMap.mp hb
  have hclosed : container.Fits :=
    (h.closeBlocks false false (o.containers.length - 1)).containers _ hcontainer
  exact fits_of_mem_blocksOf (Container.fits_of_mem_children hclosed) b hb

theorem Fits.foldl_addLine (h : o.Fits) (lines : List (List Char)) :
    (lines.foldl Outline.addLine o).Fits := by
  induction lines generalizing o with
  | nil => exact h
  | cons line lines ih => exact ih (h.addLine line)

/-- Levels and markers fit in the blocks of a text. -/
theorem fits_read (source : String) : ∀ b ∈ (read source).1, b.Fits := by
  unfold read
  exact (fits_empty.foldl_addLine _).finish

end Outline

end DocBridge.Markdown

import DocBridge.Proofs.Pandoc.Canonical

/-!
# Trees in shape

The trees that readers build stand in their places, have the attributes that a document keeps, and
their text leaves are merged. All that keeps such a tree from being canonical is a text that is not
plain. What holds of every tree in shape is shown here once, by induction on the way in which it is
put together; a reader then only has to show that it puts its trees together in this way.
-/

namespace DocBridge.Pandoc

/-- A child that is canonical in its place but for its texts. -/
inductive Shaped : Place → Child → Prop
  | text (s : String) : Shaped .inline (.text s)
  | parent {kind : Kind} {place below : Place} {attributes : Attributes} {children : List Child}
      (hplace : place? kind = some place) (hinterior : interior kind = .only below)
      (hfit : AttributesFit kind attributes.essential) (happart : Child.TextsApart children)
      (hchildren : ∀ c ∈ children, Shaped below c) :
      Shaped place (.node kind.name attributes children)
  | verbatim {kind : Kind} {place : Place} {attributes : Attributes} {s : String}
      (hplace : place? kind = some place) (hinterior : interior kind = .verbatim)
      (hfit : AttributesFit kind attributes.essential) :
      Shaped place (.node kind.name attributes [.text s])
  | empty {kind : Kind} {place : Place} {attributes : Attributes}
      (hplace : place? kind = some place) (hinterior : interior kind = .nothing)
      (hfit : AttributesFit kind attributes.essential) :
      Shaped place (.node kind.name attributes [])

mutual

/-- Every text leaf is plain that is not below code or a formula. -/
def PlainTexts : Child → Prop
  | .text s => IsPlain s
  | .node name _ children =>
    (∃ kind : Kind, kind.name = name ∧ interior kind = .verbatim) ∨ AllPlainTexts children

def AllPlainTexts : List Child → Prop
  | [] => True
  | c :: rest => PlainTexts c ∧ AllPlainTexts rest

end

section Shaped

variable {kind : Kind} {place below : Place} {attributes : Attributes} {c : Child}
  {children rest : List Child}

theorem allCanonicalIn_iff_forall_mem :
    AllCanonicalIn place children ↔ ∀ c ∈ children, CanonicalIn place c := by
  induction children with
  | nil => simp [AllCanonicalIn]
  | cons c rest ih => rw [AllCanonicalIn, ih, List.forall_mem_cons]

theorem allPlainTexts_iff_forall_mem :
    AllPlainTexts children ↔ ∀ c ∈ children, PlainTexts c := by
  induction children with
  | nil => simp [AllPlainTexts]
  | cons c rest ih => rw [AllPlainTexts, ih, List.forall_mem_cons]

theorem plainTexts_node_iff : PlainTexts (.node kind.name attributes children) ↔
    interior kind = .verbatim ∨ AllPlainTexts children := by
  rw [PlainTexts]
  refine or_congr_left ⟨fun ⟨kind', hname, hinterior⟩ => ?_, fun h => ⟨kind, rfl, h⟩⟩
  exact Kind.name_injective hname ▸ hinterior

theorem Shaped.exportable (h : Shaped place c) : Exportable place c := by
  induction h with
  | text s => exact rfl
  | parent hplace hinterior _ _ _ ih =>
      refine (exportable_node_iff hplace).mpr fun below hbelow => ?_
      obtain rfl := Interior.only.inj (hinterior.symm.trans hbelow)
      exact allExportable_iff_forall_mem.mpr ih
  | verbatim hplace hinterior | empty hplace hinterior =>
      exact (exportable_node_iff hplace).mpr (by simp [hinterior])

theorem Shaped.merged (h : Shaped place c) : c.Merged := by
  induction h with
  | text s => trivial
  | parent _ _ _ happart _ ih => exact ⟨happart, Child.allMerged_iff.mpr ih⟩
  | verbatim => exact ⟨.singleton _, trivial, trivial⟩
  | empty => exact ⟨Child.textsApart_nil, trivial⟩

theorem Shaped.canonicalIn_iff (h : Shaped place c) : CanonicalIn place c ↔ PlainTexts c := by
  induction h with
  | text s => simp [CanonicalIn, PlainTexts]
  | parent hplace hinterior hfit happart _ ih =>
      rw [canonicalIn_node_iff hplace, plainTexts_node_iff, hinterior,
        allPlainTexts_iff_forall_mem]
      simp only [hfit, happart, true_and, reduceCtorEq, false_or, allCanonicalIn_iff_forall_mem]
      exact forall₂_congr ih
  | verbatim hplace hinterior hfit =>
      rw [canonicalIn_node_iff hplace, plainTexts_node_iff, hinterior]
      simp [hfit]
  | empty hplace hinterior hfit =>
      rw [canonicalIn_node_iff hplace, plainTexts_node_iff, hinterior]
      simp [hfit, AllPlainTexts]

theorem Shaped.not_isText (h : Shaped place c) (hplace : place ≠ .inline) : ¬c.IsText := by
  cases h with
  | text s => exact absurd rfl hplace
  | parent | verbatim | empty => exact Child.not_isText_node _ _ _

/-! ### Attributes that readers set -/

/-- Links and images have the same attributes, which leave out a title that is empty. -/
theorem attributesFit_target (url title : String) :
    AttributesFit .link (if title = "" then Attributes.empty.insert "url" (.string url)
      else (Attributes.empty.insert "url" (.string url)).insert "title"
        (.string title)).essential := by
  refine ⟨url, ?_⟩
  split
  · exact .inl rfl
  · next htitle => exact .inr ⟨title, htitle, rfl⟩

theorem attributesFit_numbering {start : Nat} (hstart : start < UInt64.size) {delimiter : String}
    (hdelimiter : delimiter = "." ∨ delimiter = ")") :
    AttributesFit .orderedList ((Attributes.empty.insert "start" (.natural start)).insert
      "delimiter" (.string delimiter)).essential :=
  ⟨start, hstart, delimiter, hdelimiter, rfl⟩

/-! ### Children in shape -/

/-- Children in shape whose texts do not touch. -/
structure AllShaped (place : Place) (children : List Child) : Prop where
  shaped : ∀ c ∈ children, Shaped place c
  apart : Child.TextsApart children

theorem allShaped_nil : AllShaped place [] := ⟨by simp, Child.textsApart_nil⟩

theorem AllShaped.join (hc : Shaped .inline c) (h : AllShaped .inline rest) :
    AllShaped .inline (Child.join c rest) where
  shaped := Child.forall_mem_join (fun s t _ _ => .text (s ++ t)) hc h.shaped
  apart := h.apart.join

theorem AllShaped.cons (hplace : place ≠ .inline) (hc : Shaped place c)
    (h : AllShaped place rest) : AllShaped place (c :: rest) where
  shaped := List.forall_mem_cons.mpr ⟨hc, h.shaped⟩
  apart := Child.textsApart_cons.mpr ⟨fun _ _ hmeet => hc.not_isText hplace hmeet.1, h.apart⟩

theorem AllShaped.node (hplace : place? kind = some place) (hinterior : interior kind = .only below)
    (hfit : AttributesFit kind attributes.essential) (h : AllShaped below children) :
    Shaped place (.node kind.name attributes children) :=
  .parent hplace hinterior hfit h.apart h.shaped

theorem AllShaped.allExportable (h : AllShaped place children) : AllExportable place children :=
  allExportable_iff_forall_mem.mpr fun c hc => (h.shaped c hc).exportable

theorem AllShaped.merged (h : AllShaped .block children) : (Kind.root.node children).Merged :=
  ⟨h.apart, Child.allMerged_iff.mpr fun c hc => (h.shaped c hc).merged⟩

theorem AllShaped.canonical_iff (h : AllShaped .block children) :
    Canonical (Kind.root.node children) ↔ AllPlainTexts children := by
  have hchildren : AllCanonicalIn .block children ↔ AllPlainTexts children := by
    rw [allCanonicalIn_iff_forall_mem, allPlainTexts_iff_forall_mem]
    exact forall₂_congr fun c hc => (h.shaped c hc).canonicalIn_iff
  rw [← hchildren]
  constructor
  · intro hcanonical
    exact hcanonical.2.2.2
  · exact fun hall => ⟨rfl, rfl, h.apart, hall⟩

end Shaped

/-- A root over blocks in shape is exported. -/
theorem AllShaped.exists_document {children : List Child} (h : AllShaped .block children)
    (version : Version) : ∃ v, document version (Kind.root.node children) = .ok v := by
  obtain ⟨blocks, hblocks⟩ := (allExportable_iff Kind.root.name .block children).mp h.allExportable
  exact ⟨_, document_eq_ok_iff.mpr ⟨blocks, hblocks, rfl⟩⟩

/-- A root over blocks in shape is equal to what it is imported as when all its texts are plain. -/
theorem AllShaped.round_trip {children : List Child} (h : AllShaped .block children)
    (version : Version) :
    ∃ v restored, document version (Kind.root.node children) = .ok v ∧ tree v = .ok restored ∧
      (restored.same (Kind.root.node children) = true ↔ AllPlainTexts children) := by
  obtain ⟨v, hv⟩ := h.exists_document version
  exact ⟨v, _, hv, tree_of_document hv, (root_same_iff h.allExportable).trans h.canonical_iff⟩

end DocBridge.Pandoc

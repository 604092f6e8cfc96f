import DocBridge.Pandoc.Format
import DocBridge.Proofs.Json.Pretty
import DocBridge.Proofs.Pandoc.Canonical

/-!
# Documents that are read back from their text

The objects of a document are sorted and its numbers have 64 bits, so its text is read back as the
document. Elements nest at least as deep as the tree they are for, and nothing bounds them when they
are written. A reader does bound them, and refuses what is deeper.
-/

namespace DocBridge.Pandoc

open Json (Value)

variable {tag : String} {content v : Value} {inner : List Value} {version : Version} {root : Node}

/-! ### Documents can be restored -/

theorem restorable_pair {first second : Value} (hfirst : first.Restorable)
    (hsecond : second.Restorable) : (Value.array [first, second]).Restorable := by
  apply Value.Restorable.array
  intro v hv
  rcases List.mem_pair.mp hv with rfl | rfl
  · exact hfirst
  · exact hsecond

theorem restorable_triple {first second third : Value} (hfirst : first.Restorable)
    (hsecond : second.Restorable) (hthird : third.Restorable) :
    (Value.array [first, second, third]).Restorable := by
  apply Value.Restorable.array
  intro v hv
  rcases List.mem_cons.mp hv with rfl | hv
  · exact hfirst
  · rcases List.mem_pair.mp hv with rfl | rfl
    · exact hsecond
    · exact hthird

theorem restorable_bare (tag : String) : (bare tag).Restorable := by
  apply Value.restorable_ofMembers
  intro member hmember
  obtain rfl := List.mem_singleton.mp hmember
  exact .string tag

theorem restorable_tagged (h : content.Restorable) : (tagged tag content).Restorable := by
  apply Value.restorable_ofMembers
  intro member hmember
  rcases List.mem_pair.mp hmember with rfl | rfl
  · exact .string tag
  · exact h

theorem restorable_attributesWith (classes : List String) :
    (attributesWith classes).Restorable := by
  refine restorable_triple (.string "") (.array fun v hv => ?_) (.array (by simp))
  obtain ⟨name, -, rfl⟩ := List.mem_map.mp hv
  exact .string name

theorem restorable_textValues (s : String) : ∀ v ∈ textValues s, v.Restorable := by
  intro v hv
  obtain ⟨piece, -, rfl⟩ := List.mem_map.mp hv
  cases piece with
  | word text => exact restorable_tagged (.string _)
  | space => exact restorable_bare _
  | softBreak => exact restorable_bare _

theorem restorable_element (kind : Kind) (n : Node) (h : ∀ v ∈ inner, v.Restorable) :
    (element kind n inner).Restorable := by
  have hnatural (key : String) : (Value.natural ((n.natural? key).getD 1)).Restorable :=
    Value.restorable_natural (n.getD_natural?_lt key)
  cases kind with
  | root | listItem => exact .array h
  | para | plain | blockQuote | bulletList | emph | strong => exact restorable_tagged (.array h)
  | header =>
      exact restorable_tagged
        (restorable_triple (hnatural "level") (restorable_attributesWith []) (.array h))
  | codeBlock =>
      exact restorable_tagged (restorable_pair (restorable_attributesWith _) (.string _))
  | orderedList =>
      refine restorable_tagged (restorable_pair ?_ (.array h))
      exact restorable_triple (hnatural "start") (restorable_bare _) (restorable_bare _)
  | mathBlock =>
      apply restorable_tagged
      apply Value.Restorable.array
      intro v hv
      obtain rfl := List.mem_singleton.mp hv
      exact restorable_tagged (restorable_pair (restorable_bare _) (.string _))
  | code => exact restorable_tagged (restorable_pair (restorable_attributesWith []) (.string _))
  | math => exact restorable_tagged (restorable_pair (restorable_bare _) (.string _))
  | link | image =>
      refine restorable_tagged (restorable_triple (restorable_attributesWith []) (.array h) ?_)
      exact restorable_pair (.string _) (.string _)
  | softBreak | lineBreak => exact restorable_bare _

mutual

theorem restorable_valuesOf (parent : String) (place : Place) : (c : Child) →
    ∀ values, valuesOf parent place c = .ok values → ∀ v ∈ values, v.Restorable
  | .text s, values, h => by
      by_cases hplace : place = .inline
      · subst hplace
        obtain rfl := Except.ok.inj h
        exact restorable_textValues s
      · obtain ⟨fault, hfault⟩ : ∃ fault, valuesOf parent place (.text s) =
            .error (.malformedTree fault) := valuesOf_text_eq_error s hplace
        rw [hfault] at h
        cases h
  | .node name attributes children, values, h => by
      obtain ⟨kind, inner, rfl, -, hinner, rfl⟩ := exists_element_of_valuesOf h
      intro v hv
      obtain rfl := List.mem_singleton.mp hv
      apply restorable_element
      unfold innerValues at hinner
      split at hinner
      · exact restorable_allValuesOf kind.name _ children inner hinner
      · obtain rfl := Except.ok.inj hinner
        simp

theorem restorable_allValuesOf (parent : String) (place : Place) : (children : List Child) →
    ∀ values, allValuesOf parent place children = .ok values → ∀ v ∈ values, v.Restorable
  | [], values, h => by
      rw [allValuesOf_nil] at h
      obtain rfl := Except.ok.inj h
      simp
  | c :: rest, values, h => by
      obtain ⟨first, others, hfirst, hothers, rfl⟩ := exists_append_of_allValuesOf h
      intro v hv
      rcases List.mem_append.mp hv with hv | hv
      · exact restorable_valuesOf parent place c first hfirst v hv
      · exact restorable_allValuesOf parent place rest others hothers v hv

end

theorem restorable_document (hversion : ∀ n ∈ version, n < UInt64.size)
    (h : document version root = .ok v) : v.Restorable := by
  obtain ⟨blocks, hblocks, rfl⟩ := document_eq_ok_iff.mp h
  have hnumbers : ∀ number ∈ version.map Value.natural, number.Restorable := by
    intro number hnumber
    obtain ⟨n, hn, rfl⟩ := List.mem_map.mp hnumber
    exact Value.restorable_natural (hversion n hn)
  apply Value.restorable_ofMembers
  intro member hmember
  rcases List.mem_cons.mp hmember with rfl | hmember
  · exact .array hnumbers
  · rcases List.mem_pair.mp hmember with rfl | rfl
    · exact .object Dictionary.sorted_nil (by simp)
    · exact .array (restorable_allValuesOf root.name .block root.children blocks hblocks)

/-! ### Reading what is written -/

/-- What is written for a tree is read as the tree of its document, unless the document nests too
deep to be read at all. -/
theorem read_of_document (hversion : ∀ n ∈ version, n < UInt64.size)
    (h : document version root = .ok v) :
    write version root = .ok v.pretty ∧
      read v.pretty = if v.nesting ≤ Json.documentDepth then tree v else .error .parse := by
  constructor
  · rw [write, h]
    rfl
  · have hread := Json.read?_pretty (restorable_document hversion h) Json.documentDepth
    by_cases hdepth : v.nesting ≤ Json.documentDepth
    · rw [if_pos hdepth] at hread ⊢
      rw [read, hread]
    · rw [if_neg hdepth] at hread ⊢
      rw [read, hread]

/-! ### How deep a document nests -/

theorem nesting_bare (tag : String) : (bare tag).nesting = 1 := rfl

theorem nesting_tagged (tag : String) (content : Value) :
    (tagged tag content).nesting = content.nesting + 1 := by
  rw [tagged_eq]
  simp [Value.nesting, Value.nestingMembers]

theorem nestingAll_textValues {s : String} (hs : s ≠ "") :
    Value.nestingAll (textValues s) = 1 := by
  have hpiece (piece : Piece) : (pieceValue piece).nesting = 1 := by
    cases piece with
    | word text => exact nesting_tagged "Str" _
    | space => exact nesting_bare _
    | softBreak => exact nesting_bare _
  apply Nat.le_antisymm
  · rw [Value.nestingAll_le_iff]
    intro v hv
    obtain ⟨piece, -, rfl⟩ := List.mem_map.mp hv
    exact Nat.le_of_eq (hpiece piece)
  · obtain ⟨piece, rest, hpieces⟩ :=
      List.exists_cons_of_ne_nil (Piece.ofText_ne_nil (l := s.toList) (by simpa using hs))
    rw [textValues, hpieces, List.map_cons, Value.nestingAll, hpiece]
    exact Nat.le_max_left _ _

theorem documentOf_eq (version : Version) (blocks : List Value) : documentOf version blocks =
    .object [("blocks", .array blocks), ("meta", .object []),
      ("pandoc-api-version", .array (version.map .natural))] := by
  have hversion : "meta" < "pandoc-api-version" := by decide
  have hblocks : "blocks" < "meta" := by decide
  simp [documentOf, Value.ofMembers, Dictionary.ofEntries, Dictionary.insert, hversion, hblocks]

/-- The blocks of a document nest in its object and their list. -/
theorem nesting_documentOf (version : Version) (blocks : List Value) :
    (documentOf version blocks).nesting = Value.nestingAll blocks + 2 := by
  have hversion : Value.nestingAll (version.map .natural) = 0 := by
    rw [← Nat.le_zero, Value.nestingAll_le_iff]
    intro v hv
    obtain ⟨n, -, rfl⟩ := List.mem_map.mp hv
    exact Nat.le_refl 0
  rw [documentOf_eq]
  simp only [Value.nesting, Value.nestingMembers, hversion]
  omega

end DocBridge.Pandoc

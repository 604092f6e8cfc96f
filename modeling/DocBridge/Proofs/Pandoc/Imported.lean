import DocBridge.Proofs.Pandoc.Shape
import DocBridge.Proofs.Tree.Faults

/-!
# Trees that import gives

Whatever a JSON value holds, import either fails with a tree fault or gives a tree in shape, so
everything that is imported can be exported. The proof goes through the functions of import one by
one: each yields children in shape if those that it calls do.
-/

namespace DocBridge.Pandoc

section Yields

variable {α : Type} {P : α → Prop} {tag : String} {v content : Json.Value}

theorem yields_malformed (fault : TreeFault) : Yields P (malformed fault) := ⟨fault, rfl⟩

theorem yields_taggedContent (v : Json.Value) : Yields (fun _ => True) (taggedContent v) := by
  unfold taggedContent
  split
  · trivial
  · exact yields_malformed _

theorem yields_stringFor (tag : String) (v : Json.Value) :
    Yields (fun _ => True) (stringFor tag v) := by
  unfold stringFor
  split
  · trivial
  · exact yields_malformed _

theorem yields_notFields (tag : String) (count : Nat) (content : Json.Value) :
    Yields P (notFields tag count content) := by
  unfold notFields
  split <;> exact yields_malformed _

theorem yields_inlineFault (tag : String) (content : Json.Value) :
    Yields P (inlineFault tag content) := by
  unfold inlineFault
  split <;> first | exact yields_malformed _ | exact yields_notFields _ _ _

theorem yields_blockFault (tag : String) (content : Json.Value) :
    Yields P (blockFault tag content) := by
  unfold blockFault
  split <;> first | exact yields_malformed _ | exact yields_notFields _ _ _

theorem yields_targetAttributes (tag : String) (target : Json.Value) :
    Yields (fun attributes => AttributesFit .link attributes.essential)
      (targetAttributes tag target) := by
  unfold targetAttributes
  split
  · exact (yields_stringFor _ _).bind fun url _ => (yields_stringFor _ _).bind fun title _ =>
      attributesFit_target url title
  · exact yields_notFields _ _ _

theorem yields_listAttributes (tag : String) (style : Json.Value) :
    Yields (fun attributes => AttributesFit .orderedList attributes.essential)
      (listAttributes tag style) := by
  unfold listAttributes
  split
  · next start _ _ =>
      refine (yields_taggedContent _).bind fun ⟨delimiter, _⟩ _ => ?_
      refine attributesFit_numbering (Json.Value.getD_natural?_lt start) ?_
      split
      · exact .inr rfl
      · exact .inl rfl
  · exact yields_notFields _ _ _

theorem languageAttributes_fit (attributes : Json.Value) :
    AttributesFit .codeBlock (languageAttributes attributes).essential := by
  unfold languageAttributes
  split
  · exact .inr ⟨_, rfl⟩
  · exact .inl rfl

theorem yields_displayFormula? (inline : Json.Value) :
    Yields (fun _ => True) (displayFormula? inline) := by
  unfold displayFormula?
  refine (yields_taggedContent _).bind fun ⟨tag, content⟩ _ => ?_
  dsimp only
  split
  · split
    · refine (yields_taggedContent _).bind fun _ _ => ?_
      split
      · exact (yields_stringFor _ _).bind fun _ _ => trivial
      · trivial
    · exact yields_notFields _ _ _
  · trivial

theorem yields_loneFormula? (inlines : List Json.Value) :
    Yields (fun _ => True) (loneFormula? inlines) := by
  unfold loneFormula?
  split
  · exact yields_displayFormula? _
  · trivial

end Yields

/-! ### Inlines -/

section Inlines

variable {tag : String} {content : Json.Value}

theorem yields_leafInline? {inline : Except Error Child}
    (h : leafInline? tag content = some inline) : Yields (Shaped .inline) inline := by
  unfold leafInline? at h
  split at h
  · obtain rfl := Option.some.inj h
    exact (yields_stringFor _ _).bind fun _ _ => .text _
  · split at h
    · obtain rfl := Option.some.inj h
      exact .text _
    · split at h
      case h_1 hkind | h_2 hkind =>
        obtain rfl := Kind.name_of_ofName? hkind
        obtain rfl := Option.some.inj h
        exact .empty rfl rfl rfl
      case h_3 hkind | h_4 hkind =>
        obtain rfl := Kind.name_of_ofName? hkind
        split at h
        · obtain rfl := Option.some.inj h
          exact (yields_stringFor _ _).bind fun _ _ => .verbatim rfl rfl rfl
        · obtain rfl := Option.some.inj h
          exact yields_notFields _ _ _
      · simp at h

mutual

theorem yields_inlineOf : (v : Json.Value) → Yields (Shaped .inline) (inlineOf v)
  | .object members => by
      rw [inlineOf]
      split
      · exact yields_inlineAmong _ members
      · exact yields_malformed _
  | .null | .boolean _ | .number _ | .string _ | .array _ => yields_malformed _

theorem yields_inlineAmong (tag : String) : (members : List (String × Json.Value)) →
    Yields (Shaped .inline) (inlineAmong tag members)
  | [] => by
      rw [inlineAmong]
      cases h : leafInline? tag .null with
      | some inline => exact yields_leafInline? h
      | none => exact yields_inlineFault _ _
  | (key, content) :: rest => by
      rw [inlineAmong]
      split
      · exact yields_inlineWith tag content
      · exact yields_inlineAmong tag rest

theorem yields_inlineWith (tag : String) (content : Json.Value) :
    Yields (Shaped .inline) (inlineWith tag content) := by
  unfold inlineWith
  split
  · next h => exact yields_leafInline? h
  · split
    case h_1 hkind _ | h_2 hkind _ =>
      obtain rfl := Kind.name_of_ofName? hkind
      exact (yields_inlinesOf _).bind fun _ h => h.node rfl rfl rfl
    case h_3 hkind _ | h_4 hkind _ =>
      obtain rfl := Kind.name_of_ofName? hkind
      refine (yields_targetAttributes _ _).bind fun _ hfit => ?_
      split
      · exact (yields_inlinesOf _).bind fun _ h => h.node rfl rfl hfit
      · exact yields_malformed _
    · exact yields_inlineFault _ _

theorem yields_inlinesOf : (values : List Json.Value) →
    Yields (AllShaped .inline) (inlinesOf values)
  | [] => by
      rw [inlinesOf]
      exact allShaped_nil
  | v :: rest => by
      rw [inlinesOf]
      exact (yields_inlineOf v).bind fun _ hfirst => (yields_inlinesOf rest).bind fun _ hrest =>
        hrest.join hfirst

end

end Inlines

/-! ### Blocks -/

section Blocks

variable {tag : String} {content : Json.Value}

theorem yields_inlinesFor (tag : String) (field : Json.Value) :
    Yields (AllShaped .inline) (inlinesFor tag field) := by
  unfold inlinesFor
  split
  · exact yields_inlinesOf _
  · exact yields_malformed _

theorem yields_leafBlock? {block : Except Error Child}
    (h : leafBlock? tag content = some block) : Yields (Shaped .block) block := by
  unfold leafBlock? at h
  split at h
  case h_1 hkind =>
    obtain rfl := Kind.name_of_ofName? hkind
    obtain rfl := Option.some.inj h
    refine (yields_loneFormula? _).bind fun _ _ => ?_
    split
    · change Shaped .block (.node Kind.mathBlock.name ∅ [.text _])
      exact .verbatim rfl rfl rfl
    · exact (yields_inlinesOf _).bind fun _ h => h.node rfl rfl rfl
  case h_2 hkind =>
    obtain rfl := Kind.name_of_ofName? hkind
    obtain rfl := Option.some.inj h
    exact (yields_inlinesOf _).bind fun _ h => h.node rfl rfl rfl
  case h_3 hkind =>
    obtain rfl := Kind.name_of_ofName? hkind
    obtain rfl := Option.some.inj h
    split
    · next n hlevel =>
        have hlt := (Json.Value.natural?_eq_some_iff.mp hlevel).2
        exact (yields_inlinesFor _ _).bind fun _ h => h.node rfl rfl ⟨n, hlt, rfl⟩
    · exact yields_malformed _
  case h_5 hkind =>
    obtain rfl := Kind.name_of_ofName? hkind
    obtain rfl := Option.some.inj h
    exact (yields_stringFor _ _).bind fun _ _ => .verbatim rfl rfl (languageAttributes_fit _)
  case h_4 | h_6 =>
    obtain rfl := Option.some.inj h
    exact yields_notFields _ _ _
  · simp at h

mutual

theorem yields_blockOf : (v : Json.Value) → Yields (Shaped .block) (blockOf v)
  | .object members => by
      rw [blockOf]
      split
      · exact yields_blockAmong _ members
      · exact yields_malformed _
  | .null | .boolean _ | .number _ | .string _ | .array _ => yields_malformed _

theorem yields_blockAmong (tag : String) : (members : List (String × Json.Value)) →
    Yields (Shaped .block) (blockAmong tag members)
  | [] => by
      rw [blockAmong]
      cases h : leafBlock? tag .null with
      | some block => exact yields_leafBlock? h
      | none => exact yields_blockFault _ _
  | (key, content) :: rest => by
      rw [blockAmong]
      split
      · exact yields_blockWith tag content
      · exact yields_blockAmong tag rest

theorem yields_blockWith (tag : String) (content : Json.Value) :
    Yields (Shaped .block) (blockWith tag content) := by
  unfold blockWith
  split
  · next h => exact yields_leafBlock? h
  · split
    case h_1 hkind _ =>
      obtain rfl := Kind.name_of_ofName? hkind
      exact (yields_blocksOf _).bind fun _ h => h.node rfl rfl rfl
    case h_2 hkind _ =>
      obtain rfl := Kind.name_of_ofName? hkind
      exact (yields_itemsOf _).bind fun _ h => h.node rfl rfl rfl
    case h_3 hkind _ =>
      obtain rfl := Kind.name_of_ofName? hkind
      refine (yields_listAttributes _ _).bind fun _ hfit => ?_
      split
      · exact (yields_itemsOf _).bind fun _ h => h.node rfl rfl hfit
      · exact yields_malformed _
    · exact yields_blockFault _ _

theorem yields_blocksOf : (values : List Json.Value) →
    Yields (AllShaped .block) (blocksOf values)
  | [] => by
      rw [blocksOf]
      exact allShaped_nil
  | v :: rest => by
      rw [blocksOf]
      exact (yields_blockOf v).bind fun _ hfirst => (yields_blocksOf rest).bind fun _ hrest =>
        hrest.cons (by decide) hfirst

theorem yields_itemOf : (v : Json.Value) → Yields (Shaped .item) (itemOf v)
  | .array blocks => by
      have hplace : place? .listItem = some .item := rfl
      rw [itemOf]
      exact (yields_blocksOf blocks).bind fun _ h => h.node hplace rfl rfl
  | .null | .boolean _ | .number _ | .string _ | .object _ => yields_malformed _

theorem yields_itemsOf : (values : List Json.Value) →
    Yields (AllShaped .item) (itemsOf values)
  | [] => by
      rw [itemsOf]
      exact allShaped_nil
  | v :: rest => by
      rw [itemsOf]
      exact (yields_itemOf v).bind fun _ hfirst => (yields_itemsOf rest).bind fun _ hrest =>
        hrest.cons (by decide) hfirst

end

end Blocks

/-- A value is imported as a root over blocks in shape, or refused for a tree fault. -/
theorem yields_tree (v : Json.Value) :
    Yields (fun root => ∃ blocks, root = Kind.root.node blocks ∧ AllShaped .block blocks)
      (tree v) := by
  unfold tree
  split
  · exact (yields_blocksOf _).bind fun blocks h => ⟨blocks, rfl, h⟩
  · exact yields_malformed _

theorem allShaped_of_tree {v : Json.Value} {root : Node} (h : tree v = .ok root) :
    ∃ blocks, root = Kind.root.node blocks ∧ AllShaped .block blocks := by
  have hyields := yields_tree v
  rwa [h] at hyields

theorem malformedTree_of_tree {v : Json.Value} {e : Error} (h : tree v = .error e) :
    ∃ fault, e = .malformedTree fault := by
  have hyields := yields_tree v
  rwa [h] at hyields

end DocBridge.Pandoc

import DocBridge.Proofs.Pandoc.Settled

/-!
# Trees that survive export and import

A canonical tree has what a document keeps and nothing else: each kind in its place with its own
attributes, plain texts that do not touch, one leaf below code and formulas and nothing below
breaks. These trees are equal to what becomes of them, and no others are.
-/

namespace DocBridge.Pandoc

/-- Whether attributes are those that a document keeps of a node of a kind. -/
def AttributesFit (kind : Kind) (entries : Dictionary Json.Value) : Prop :=
  match kind with
  | .header => ∃ level < UInt64.size, entries = [("level", .natural level)]
  | .codeBlock => entries = [] ∨ ∃ language, entries = [("lang", .string language)]
  | .orderedList => ∃ start < UInt64.size, ∃ delimiter, (delimiter = "." ∨ delimiter = ")") ∧
      entries = [("delimiter", .string delimiter), ("start", .natural start)]
  | .link | .image => ∃ url, entries = [("url", .string url)] ∨
      ∃ title, title ≠ "" ∧ entries = [("title", .string title), ("url", .string url)]
  | _ => entries = []

mutual

/-- A child stands in its place, in the form that export and import leave as it is. -/
def CanonicalIn : Place → Child → Prop
  | place, .text s => place = .inline ∧ IsPlain s
  | place, .node name attributes children => ∃ kind : Kind, kind.name = name ∧
    place? kind = some place ∧ AttributesFit kind attributes.essential ∧
      match interior kind with
      | .only below => Child.TextsApart children ∧ AllCanonicalIn below children
      | .verbatim => ∃ s, children = [.text s]
      | .nothing => children = []

def AllCanonicalIn : Place → List Child → Prop
  | _, [] => True
  | place, c :: rest => CanonicalIn place c ∧ AllCanonicalIn place rest

end

/-- A root over blocks in canonical form. -/
def Canonical (root : Node) : Prop :=
  root.name = Kind.root.name ∧ AttributesFit .root root.attributes.essential ∧
    Child.TextsApart root.children ∧ AllCanonicalIn .block root.children

/-! ### Attributes -/

theorem attributesFit_settled (kind : Kind) (n : Node) :
    AttributesFit kind (settledAttributes kind n).essential := by
  cases kind
  case header =>
    rw [AttributesFit]
    exact ⟨(n.natural? "level").getD 1, n.getD_natural?_lt "level", rfl⟩
  case codeBlock =>
    rw [AttributesFit, settledAttributes]
    cases n.string? "lang" with
    | none => exact .inl rfl
    | some language => exact .inr ⟨language, rfl⟩
  case orderedList =>
    rw [AttributesFit]
    refine ⟨(n.natural? "start").getD 1, n.getD_natural?_lt "start", _, ?_, rfl⟩
    split
    · exact .inr rfl
    · exact .inl rfl
  case link | image =>
    rw [AttributesFit, settledAttributes]
    refine ⟨(n.string? "url").getD "", ?_⟩
    split
    · exact .inl rfl
    · next htitle => exact .inr ⟨_, htitle, rfl⟩
  all_goals rfl

theorem essential_eq_of_fit {kind : Kind} {n : Node}
    (h : AttributesFit kind n.attributes.essential) :
    n.attributes.essential = (settledAttributes kind n).essential := by
  cases kind
  case header =>
    obtain ⟨level, hlt, h⟩ := h
    have hlevel : n.natural? "level" = some level :=
      (Node.natural?_eq_some_iff (by decide)).mpr ⟨by simp [h], hlt⟩
    rw [settledAttributes, hlevel]
    exact h
  case codeBlock =>
    obtain h | ⟨language, h⟩ := h
    · have hlang : n.string? "lang" = none := Node.string?_eq_none (by decide) (by simp [h])
      rw [settledAttributes, hlang]
      exact h
    · have hlang : n.string? "lang" = some language :=
        (Node.string?_eq_some_iff (by decide)).mpr (by simp [h])
      rw [settledAttributes, hlang]
      exact h
  case orderedList =>
    obtain ⟨start, hlt, delimiter, hdelimiter, h⟩ := h
    have hstart : n.natural? "start" = some start :=
      (Node.natural?_eq_some_iff (by decide)).mpr ⟨by simp [h], hlt⟩
    have hstring : n.string? "delimiter" = some delimiter :=
      (Node.string?_eq_some_iff (by decide)).mpr (by simp [h])
    rw [settledAttributes, hstart, hstring]
    obtain rfl | rfl := hdelimiter <;> exact h
  case link | image =>
    obtain ⟨url, h | ⟨title, htitle, h⟩⟩ := h
    · have hurl : n.string? "url" = some url :=
        (Node.string?_eq_some_iff (by decide)).mpr (by simp [h])
      have hnone : n.string? "title" = none := Node.string?_eq_none (by decide) (by simp [h])
      rw [settledAttributes, hurl, hnone]
      exact h
    · have hurl : n.string? "url" = some url :=
        (Node.string?_eq_some_iff (by decide)).mpr (by simp [h])
      have hsome : n.string? "title" = some title :=
        (Node.string?_eq_some_iff (by decide)).mpr (by simp [h])
      rw [settledAttributes, hurl, hsome]
      simp only [Option.getD_some, if_neg htitle]
      exact h
  all_goals exact h

theorem same_iff_eq_of_fit {kind : Kind} {entries : Dictionary Json.Value}
    (h : AttributesFit kind entries) :
    ∀ entry ∈ entries, ∀ v, entry.2.same v = true ↔ v = entry.2 := by
  cases kind
  case header =>
    obtain ⟨level, -, rfl⟩ := h
    simp
  case codeBlock =>
    obtain rfl | ⟨language, rfl⟩ := h <;> simp
  case orderedList =>
    obtain ⟨start, -, delimiter, -, rfl⟩ := h
    simp
  case link | image =>
    obtain ⟨url, rfl | ⟨title, -, rfl⟩⟩ := h <;> simp
  all_goals
    obtain rfl : entries = [] := h
    simp

theorem settledAttributes_same_iff (kind : Kind) (n : Node) :
    (settledAttributes kind n).same n.attributes = true ↔
      AttributesFit kind n.attributes.essential := by
  rw [Attributes.same_iff_essential_eq (same_iff_eq_of_fit (attributesFit_settled kind n))]
  exact ⟨fun h => h ▸ attributesFit_settled kind n, essential_eq_of_fit⟩

/-! ### Trees -/

section Trees

variable {place : Place} {kind : Kind} {c : Child} {attributes : Attributes}
  {children rest : List Child}

theorem canonicalIn_node_iff (hplace : place? kind = some place) :
    CanonicalIn place (.node kind.name attributes children) ↔
      AttributesFit kind attributes.essential ∧
        match interior kind with
        | .only below => Child.TextsApart children ∧ AllCanonicalIn below children
        | .verbatim => ∃ s, children = [.text s]
        | .nothing => children = [] := by
  rw [CanonicalIn]
  constructor
  · intro h
    obtain ⟨kind', hname, -, h⟩ := h
    obtain rfl := Kind.name_injective hname
    exact h
  · exact fun h => ⟨kind, rfl, hplace, h⟩

theorem textsApart_allSettled (children : List Child) : Child.TextsApart (allSettled children) := by
  induction children with
  | nil => exact Child.textsApart_nil
  | cons c rest ih => exact ih.foldr_join _

theorem head?_allSettled (hexp : AllExportable place rest) (h : ∀ d ∈ rest.head?, ¬d.IsText) :
    ∀ d ∈ (allSettled rest).head?, ¬d.IsText := by
  cases rest with
  | nil => simp [allSettled]
  | cons c rest =>
      cases c with
      | text s => simp at h
      | node name attributes children =>
          obtain ⟨kind, rfl, -, -⟩ := hexp.1
          rw [allSettled, settled_node]
          simp [Child.join]

/-- A text that does not touch another is left as it is when it is plain. -/
theorem allSame_settled_text_iff {s : String} {others : List Child}
    (h : ∀ d ∈ others.head?, ¬d.IsText) :
    Child.allSame ((settled (.text s)).foldr Child.join others) (.text s :: rest) = true ↔
      IsPlain s ∧ Child.allSame others rest = true := by
  rw [Child.foldr_join_append h, settled_text]
  constructor
  · intro hsame
    cases hfragments : fragments s with
    | nil =>
        rw [hfragments, List.nil_append] at hsame
        cases others with
        | nil => simp [Child.allSame] at hsame
        | cons d others =>
            rw [Child.allSame, Bool.and_eq_true] at hsame
            exact absurd ((Child.isText_iff_of_same hsame.1).mpr trivial) (h d rfl)
    | cons c more =>
        have hmem : .text s ∈ fragments s := by
          rw [hfragments, List.cons_append, Child.allSame, Bool.and_eq_true] at hsame
          cases c with
          | text t =>
              obtain rfl : t = s := by simpa [Child.same] using hsame.1
              rw [hfragments]
              exact List.mem_cons_self
          | node name attributes children => simp [Child.same] at hsame
        have hplain := isPlain_of_text_mem_fragments hmem
        rw [fragments_of_isPlain hplain, List.singleton_append, Child.allSame,
          Bool.and_eq_true] at hsame
        exact ⟨hplain, hsame.2⟩
  · intro h
    obtain ⟨hplain, hsame⟩ := h
    rw [fragments_of_isPlain hplain, List.singleton_append, Child.allSame, hsame]
    simp [Child.same]

theorem allSame_nil_iff : Child.allSame [] children = true ↔ children = [] := by
  cases children <;> simp [Child.allSame]

/-- The text below a node makes up one leaf, which is what stands there if it is a leaf at all. -/
theorem allSame_textOfAll_iff :
    Child.allSame [.text (Child.textOfAll children)] children = true ↔
      ∃ s, children = [.text s] := by
  constructor
  · intro hsame
    match children with
    | [] => simp [Child.allSame] at hsame
    | [.text s] => exact ⟨s, rfl⟩
    | .node _ _ _ :: _ => simp [Child.allSame, Child.same] at hsame
    | .text _ :: _ :: _ => simp [Child.allSame] at hsame
  · intro h
    obtain ⟨s, rfl⟩ := h
    simp [Child.allSame, Child.same, Child.textOfAll, Child.textContent]

end Trees

mutual

/-- A node is equal to what becomes of it exactly when it is canonical. -/
theorem settled_same_iff {place : Place} : (c : Child) → ¬c.IsText → Exportable place c →
    (Child.allSame (settled c) [c] = true ↔ CanonicalIn place c)
  | .text s, h, _ => absurd trivial h
  | .node name attributes children, _, hexp => by
      obtain ⟨kind, rfl, hplace, hbelow⟩ := hexp
      have hnode : Child.allSame (settled (.node kind.name attributes children))
          [.node kind.name attributes children] = true ↔
          (settledAttributes kind ⟨kind.name, attributes, children⟩).same attributes = true ∧
            Child.allSame (settledBelow kind children) children = true := by
        simp [settled_node, Child.allSame, Child.same, and_comm]
      rw [hnode, settledAttributes_same_iff, canonicalIn_node_iff hplace]
      refine and_congr_right fun _ => ?_
      -- Only here does the induction go down, into children that are kept as children.
      unfold settledBelow
      cases hinterior : interior kind with
      | only below =>
          rw [hinterior] at hbelow
          exact allSettled_same_iff children hbelow
      | verbatim => exact allSame_textOfAll_iff
      | nothing => exact allSame_nil_iff

theorem allSettled_same_iff {place : Place} : (children : List Child) →
    AllExportable place children →
      (Child.allSame (allSettled children) children = true ↔
        Child.TextsApart children ∧ AllCanonicalIn place children)
  | [], _ => by simp [allSettled, Child.allSame, Child.textsApart_nil, AllCanonicalIn]
  | .text s :: rest, hexp => by
      obtain ⟨hplace, hrest⟩ := hexp
      by_cases hapart : ∀ d ∈ rest.head?, ¬d.IsText
      · rw [allSettled, allSame_settled_text_iff (head?_allSettled hrest hapart),
          allSettled_same_iff rest hrest, Child.textsApart_cons, AllCanonicalIn, CanonicalIn]
        constructor
        · intro h
          obtain ⟨hplain, htexts, hall⟩ := h
          exact ⟨⟨fun d hd hmeet => hapart d hd hmeet.2, htexts⟩, ⟨hplace, hplain⟩, hall⟩
        · intro h
          obtain ⟨⟨-, htexts⟩, ⟨-, hplain⟩, hall⟩ := h
          exact ⟨hplain, htexts, hall⟩
      · -- Two texts that touch have become one.
        have hnot : ¬Child.TextsApart (.text s :: rest) := fun htexts =>
          hapart fun d hd htext => (Child.textsApart_cons.mp htexts).1 d hd ⟨trivial, htext⟩
        exact iff_of_false (fun h => hnot ((textsApart_allSettled _).of_allSame h))
          fun h => hnot h.1
  | .node name attributes children :: rest, hexp => by
      obtain ⟨hnode, hrest⟩ := hexp
      have hfirst := settled_same_iff (.node name attributes children) id hnode
      obtain ⟨kind, rfl, -, -⟩ := hnode
      rw [settled_node, Child.allSame, Bool.and_eq_true, allSame_nil_iff] at hfirst
      have happart : Child.TextsApart (.node kind.name attributes children :: rest) ↔
          Child.TextsApart rest := by
        simp [Child.textsApart_cons]
      rw [allSettled, settled_node, List.foldr_cons, List.foldr_nil,
        Child.join_eq_cons (by simp), Child.allSame, Bool.and_eq_true,
        allSettled_same_iff rest hrest, happart, AllCanonicalIn, ← hfirst]
      constructor
      · intro h
        obtain ⟨hsame, htexts, hall⟩ := h
        exact ⟨htexts, ⟨hsame, rfl⟩, hall⟩
      · intro h
        obtain ⟨htexts, ⟨hsame, -⟩, hall⟩ := h
        exact ⟨hsame, htexts, hall⟩

end

mutual

theorem exportable_of_canonicalIn {place : Place} : (c : Child) → CanonicalIn place c →
    Exportable place c
  | .text _, h => h.1
  | .node name attributes children, h => by
      obtain ⟨kind, rfl, hplace, -, hbelow⟩ := h
      refine (exportable_node_iff hplace).mpr fun below hinterior => ?_
      rw [hinterior] at hbelow
      exact allExportable_of_allCanonicalIn children hbelow.2

theorem allExportable_of_allCanonicalIn {place : Place} : (children : List Child) →
    AllCanonicalIn place children → AllExportable place children
  | [], _ => trivial
  | c :: rest, h =>
      ⟨exportable_of_canonicalIn c h.1, allExportable_of_allCanonicalIn rest h.2⟩

end

theorem root_same_iff {root : Node} (hexp : AllExportable .block root.children) :
    (Kind.root.node (allSettled root.children)).same root = true ↔ Canonical root := by
  have hroot : (Kind.root.node (allSettled root.children)).same root = true ↔
      root.name = Kind.root.name ∧ (settledAttributes .root root).same root.attributes = true ∧
        Child.allSame (allSettled root.children) root.children = true := by
    simp only [Node.same, Child.ofNode, Child.same, Kind.node, settledAttributes, Bool.and_eq_true,
      beq_iff_eq]
    constructor
    · intro h
      obtain ⟨⟨hname, hchildren⟩, hattributes⟩ := h
      exact ⟨hname.symm, hattributes, hchildren⟩
    · intro h
      obtain ⟨hname, hattributes, hchildren⟩ := h
      exact ⟨⟨hname.symm, hchildren⟩, hattributes⟩
  rw [hroot, settledAttributes_same_iff, allSettled_same_iff root.children hexp, Canonical]

/-- Export succeeds with a tree, and import gives back one equal to it, exactly when the tree is
canonical. -/
theorem round_trip_iff_canonical (version : Version) (root : Node) :
    (∃ v restored, document version root = .ok v ∧ tree v = .ok restored ∧
      restored.same root = true) ↔ Canonical root := by
  constructor
  · intro h
    obtain ⟨v, restored, hv, hrestored, hsame⟩ := h
    obtain ⟨blocks, hblocks, -⟩ := document_eq_ok_iff.mp hv
    have hexp : AllExportable .block root.children :=
      (allExportable_iff root.name .block root.children).mpr ⟨blocks, hblocks⟩
    rw [tree_of_document hv] at hrestored
    obtain rfl := Except.ok.inj hrestored
    exact (root_same_iff hexp).mp hsame
  · intro h
    have hexp := allExportable_of_allCanonicalIn root.children h.2.2.2
    obtain ⟨blocks, hblocks⟩ := (allExportable_iff root.name .block root.children).mp hexp
    have hv : document version root = .ok (documentOf version blocks) :=
      document_eq_ok_iff.mpr ⟨blocks, hblocks, rfl⟩
    exact ⟨_, _, hv, tree_of_document hv, (root_same_iff hexp).mpr h⟩

end DocBridge.Pandoc

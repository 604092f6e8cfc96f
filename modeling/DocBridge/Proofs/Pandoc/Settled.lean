import DocBridge.Pandoc.Import
import DocBridge.Proofs.Pandoc.Grammar
import DocBridge.Proofs.Pandoc.Pieces
import DocBridge.Proofs.Tree.Sameness

/-!
# Trees after export and import

What becomes of a tree that is exported and imported again is said without JSON: texts settle into
leaves and soft breaks, attributes into those that a document keeps, filled in where they are
missing, and what is below code into one leaf. Import undoes export up to this, element by element.
-/

namespace DocBridge.Pandoc

/-- The attributes that a document keeps of a node of a kind. -/
def settledAttributes (kind : Kind) (n : Node) : Attributes :=
  match kind with
  | .header => Attributes.empty.insert "level" (.natural ((n.natural? "level").getD 1))
  | .codeBlock =>
    match n.string? "lang" with
    | some language => Attributes.empty.insert "lang" (.string language)
    | none => ∅
  | .orderedList =>
    (Attributes.empty.insert "start" (.natural ((n.natural? "start").getD 1))).insert "delimiter"
      (.string (if n.string? "delimiter" = some ")" then ")" else "."))
  | .link | .image =>
    let url := Attributes.empty.insert "url" (.string ((n.string? "url").getD ""))
    let title := (n.string? "title").getD ""
    if title = "" then url else url.insert "title" (.string title)
  | _ => ∅

mutual

/-- What becomes of a child. -/
def settled : Child → List Child
  | .text s => (Piece.ofText s.toList).map Piece.child
  | .node name attributes children =>
    match Kind.ofName? name with
    | some kind => [.node name (settledAttributes kind ⟨name, attributes, children⟩)
        (match interior kind with
          | .only _ => allSettled children
          | .verbatim => [.text (Child.textOfAll children)]
          | .nothing => [])]
    | none => []

def allSettled : List Child → List Child
  | [] => []
  | c :: rest => (settled c).foldr Child.join (allSettled rest)

end

def settledBelow (kind : Kind) (children : List Child) : List Child :=
  match interior kind with
  | .only _ => allSettled children
  | .verbatim => [.text (Child.textOfAll children)]
  | .nothing => []

theorem settled_node (kind : Kind) (attributes : Attributes) (children : List Child) :
    settled (.node kind.name attributes children) =
      [.node kind.name (settledAttributes kind ⟨kind.name, attributes, children⟩)
        (settledBelow kind children)] := by
  simp [settled, settledBelow]

theorem settled_text (s : String) : (settled (.text s)).foldr Child.join [] = fragments s := by
  rw [settled, fragments]

/-! ### Tagged objects -/

section Tagged

variable {tag : String} {content : Json.Value}

theorem tagged_eq (tag : String) (content : Json.Value) :
    tagged tag content = .object [("c", content), ("t", .string tag)] := by
  have hkeys : "c" < "t" := by decide
  simp only [tagged, Json.Value.ofMembers, Dictionary.ofEntries, List.foldl_cons, List.foldl_nil,
    Dictionary.insert, if_pos hkeys]

theorem find?_tag :
    Dictionary.find? [("c", content), ("t", .string tag)] "t" = some (.string tag) := rfl

theorem bare_eq (tag : String) : bare tag = .object [("t", .string tag)] := rfl

@[simp] theorem taggedContent_tagged : taggedContent (tagged tag content) = .ok (tag, content) := by
  rw [tagged_eq]
  rfl

@[simp] theorem taggedContent_bare : taggedContent (bare tag) = .ok (tag, .null) := rfl

@[simp] theorem blockOf_tagged : blockOf (tagged tag content) = blockWith tag content := by
  rw [tagged_eq, blockOf, find?_tag]
  simp [Json.Value.string?, blockAmong]

@[simp] theorem inlineOf_tagged : inlineOf (tagged tag content) = inlineWith tag content := by
  rw [tagged_eq, inlineOf, find?_tag]
  simp [Json.Value.string?, inlineAmong]

@[simp] theorem inlineOf_bare :
    inlineOf (bare tag) = (leafInline? tag .null).getD (inlineFault tag .null) := by
  rw [bare_eq, inlineOf]
  simp [Dictionary.find?, Json.Value.string?, inlineAmong]

end Tagged

/-! ### Elements read back -/

theorem name_ne_str (kind : Kind) : kind.name ≠ "Str" := by cases kind <;> decide

theorem name_ne_space (kind : Kind) : kind.name ≠ "Space" := by cases kind <;> decide

/-- The child in a place that a value stands for. -/
def childOf : Place → Json.Value → Except Error Child
  | .block, v => blockOf v
  | .item, v => itemOf v
  | .inline, v => inlineOf v

def childrenOf : Place → List Json.Value → Except Error (List Child)
  | .block, values => blocksOf values
  | .item, values => itemsOf values
  | .inline, values => inlinesOf values

/-- The children of a node of a kind, read back. -/
def readBack (kind : Kind) (n : Node) (inner : List Json.Value) : Except Error (List Child) :=
  match interior kind with
  | .only place => childrenOf place inner
  | .verbatim => .ok [.text n.textContent]
  | .nothing => .ok []

section ReadBack

variable {kind : Kind} {place : Place} {n : Node} {inner rest : List Json.Value} {v : Json.Value}
  {name : String} {attributes : Attributes} {children : List Child}

@[simp] theorem childrenOf_nil : childrenOf place [] = .ok [] := by
  cases place <;> simp [childrenOf, blocksOf, itemsOf, inlinesOf]

theorem childrenOf_cons (h : childOf place v = .ok (.node name attributes children)) :
    childrenOf place (v :: rest) =
      (do return .node name attributes children :: (← childrenOf place rest)) := by
  cases place with
  | block =>
      rw [childOf] at h
      simp only [childrenOf, blocksOf, h]
      rfl
  | item =>
      rw [childOf] at h
      simp only [childrenOf, itemsOf, h]
      rfl
  | inline =>
      rw [childOf] at h
      simp only [childrenOf, inlinesOf, h]
      rfl

theorem natural?_getD (n : Node) (key : String) :
    (Json.Value.natural ((n.natural? key).getD 1)).natural? = some ((n.natural? key).getD 1) :=
  Json.Value.natural?_eq_some_iff.mpr ⟨rfl, n.getD_natural?_lt key⟩

theorem blockWith_header {level : Json.Value} {m : Nat} (h : level.natural? = some m)
    (attributes : Json.Value) (inner : List Json.Value) :
    blockWith Kind.header.name (.array [level, attributes, .array inner]) =
      (do
        let children ← inlinesOf inner
        return .node Kind.header.name (Attributes.empty.insert "level" (.natural m)) children) := by
  simp only [blockWith, leafBlock?, Kind.ofName?_name, h]
  rfl

theorem languageAttributes_attributesWith (n : Node) :
    languageAttributes (attributesWith (n.string? "lang").toList) =
      settledAttributes .codeBlock n := by
  unfold settledAttributes
  cases n.string? "lang" <;> rfl

theorem listAttributes_style (n : Node) :
    listAttributes Kind.orderedList.name (.array
      [.natural ((n.natural? "start").getD 1), bare "Decimal", bare (delimiterTag n)]) =
      .ok (settledAttributes .orderedList n) := by
  simp only [listAttributes, taggedContent_bare, natural?_getD]
  unfold settledAttributes delimiterTag
  split <;> rfl

theorem targetAttributes_target (tag : String) (n : Node) (hkind : kind = .link ∨ kind = .image) :
    targetAttributes tag (.array
      [.string ((n.string? "url").getD ""), .string ((n.string? "title").getD "")]) =
      .ok (settledAttributes kind n) := by
  obtain rfl | rfl := hkind <;> rfl

/-- A node is read back from its value, with the attributes that a document keeps. -/
theorem childOf_element (hplace : place? kind = some place)
    (hformula : kind = .para → loneFormula? inner = .ok none) :
    childOf place (element kind n inner) =
      (do return .node kind.name (settledAttributes kind n) (← readBack kind n inner)) := by
  cases kind <;> cases hplace
  case para =>
    simp only [childOf, element, blockOf_tagged, blockWith, leafBlock?, Kind.ofName?_name,
      hformula rfl]
    rfl
  case plain | blockQuote | bulletList =>
    simp only [childOf, element, blockOf_tagged, blockWith, leafBlock?, Kind.ofName?_name]
    rfl
  case header =>
    -- The number is taken as it stands, since its test against 64 bits must not be evaluated.
    rw [childOf, element, blockOf_tagged, blockWith_header (natural?_getD n "level")]
    rfl
  case codeBlock =>
    simp only [childOf, element, blockOf_tagged, blockWith, leafBlock?, Kind.ofName?_name,
      stringFor, languageAttributes_attributesWith]
    rfl
  case orderedList =>
    simp only [childOf, element, blockOf_tagged, blockWith, leafBlock?, Kind.ofName?_name,
      listAttributes_style]
    rfl
  case mathBlock =>
    have hmath : loneFormula? [tagged "Math" (.array [bare "DisplayMath", .string n.textContent])] =
        .ok (some n.textContent) := by
      simp only [loneFormula?, displayFormula?, taggedContent_tagged]
      rfl
    have hpara : Kind.ofName? "Para" = some .para := Kind.ofName?_name .para
    simp only [childOf, element, blockOf_tagged, blockWith, leafBlock?, hpara, hmath]
    rfl
  case listItem => rfl
  case emph | strong | code | math =>
    simp only [childOf, element, inlineOf_tagged, inlineWith, leafInline?, Kind.ofName?_name,
      name_ne_str, name_ne_space, if_false, stringFor]
    rfl
  case link =>
    simp only [childOf, element, inlineOf_tagged, inlineWith, leafInline?, Kind.ofName?_name,
      name_ne_str, name_ne_space, if_false, targetAttributes_target _ n (.inl rfl)]
    rfl
  case image =>
    simp only [childOf, element, inlineOf_tagged, inlineWith, leafInline?, Kind.ofName?_name,
      name_ne_str, name_ne_space, if_false, targetAttributes_target _ n (.inr rfl)]
    rfl
  case softBreak | lineBreak =>
    simp only [childOf, element, inlineOf_bare, leafInline?, Kind.ofName?_name,
      name_ne_str, name_ne_space, if_false]
    rfl

theorem inlineOf_pieceValue (p : Piece) : inlineOf (pieceValue p) = .ok p.child := by
  cases p with
  | word text =>
      simp only [pieceValue, inlineOf_tagged, inlineWith, leafInline?, if_true]
      rfl
  | space => rfl
  | softBreak =>
      rw [pieceValue, inlineOf_bare]
      rfl

theorem inlinesOf_pieces (pieces : List Piece) (rest : List Json.Value) :
    inlinesOf (pieces.map pieceValue ++ rest) =
      (do return (pieces.map Piece.child).foldr Child.join (← inlinesOf rest)) := by
  induction pieces with
  | nil => simp
  | cons p pieces ih =>
      rw [List.map_cons, List.cons_append, inlinesOf, inlineOf_pieceValue, ih]
      cases inlinesOf rest <;> rfl

/-! ### No formula is taken for a block -/

theorem displayFormula?_pieceValue (p : Piece) : displayFormula? (pieceValue p) = .ok none := by
  cases p with
  | word text => simp only [pieceValue, displayFormula?, taggedContent_tagged]; rfl
  | space => rfl
  | softBreak => rfl

theorem displayFormula?_element (hplace : place? kind = some .inline) :
    displayFormula? (element kind n inner) = .ok none := by
  cases kind <;> cases hplace <;>
    simp only [element, displayFormula?, taggedContent_tagged, taggedContent_bare] <;> rfl

theorem displayFormula?_of_mem {parent : String} {c : Child} {values : List Json.Value}
    (h : valuesOf parent .inline c = .ok values) (hv : v ∈ values) :
    displayFormula? v = .ok none := by
  cases c with
  | text s =>
      obtain rfl : textValues s = values := Except.ok.inj h
      obtain ⟨p, -, rfl⟩ := List.mem_map.mp hv
      exact displayFormula?_pieceValue p
  | node name attributes children =>
      obtain ⟨kind, inner, -, hplace, -, rfl⟩ := exists_element_of_valuesOf h
      obtain rfl := List.mem_singleton.mp hv
      exact displayFormula?_element hplace

theorem displayFormula?_of_mem_all {parent : String} {values : List Json.Value}
    (h : allValuesOf parent .inline children = .ok values) :
    ∀ v ∈ values, displayFormula? v = .ok none := by
  induction children generalizing values with
  | nil =>
      obtain rfl : [] = values := Except.ok.inj (allValuesOf_nil.symm.trans h)
      simp
  | cons c rest ih =>
      obtain ⟨first, others, hfirst, hothers, rfl⟩ := exists_append_of_allValuesOf h
      intro v hv
      rcases List.mem_append.mp hv with hv | hv
      · exact displayFormula?_of_mem hfirst hv
      · exact ih hothers v hv

theorem loneFormula?_of_innerValues (h : innerValues .para children = .ok inner) :
    loneFormula? inner = .ok none := by
  have hvalues : allValuesOf Kind.para.name .inline children = .ok inner := h
  have hall := displayFormula?_of_mem_all hvalues
  match inner with
  | [] => rfl
  | [v] => exact hall v (by simp)
  | v :: w :: rest => rfl

end ReadBack

/-! ### Import after export -/

mutual

/-- What is exported of a child is imported as what becomes of it. -/
theorem childrenOf_values {parent : String} {place : Place} {values : List Json.Value} :
    (c : Child) → valuesOf parent place c = .ok values → (rest : List Json.Value) →
      childrenOf place (values ++ rest) =
        (do return (settled c).foldr Child.join (← childrenOf place rest))
  | .text s, h, rest => by
      cases place with
      | block => simp [valuesOf, blockValue, bind, Except.bind] at h
      | item => simp [valuesOf, itemValue, bind, Except.bind] at h
      | inline =>
          obtain rfl : textValues s = values := Except.ok.inj h
          exact inlinesOf_pieces _ rest
  | .node name attributes children, h, rest => by
      obtain ⟨kind, inner, rfl, hplace, hinner, rfl⟩ := exists_element_of_valuesOf h
      have hback : readBack kind ⟨kind.name, attributes, children⟩ inner =
          .ok (settledBelow kind children) := by
        unfold readBack settledBelow
        cases hinterior : interior kind with
        | only below =>
            rw [innerValues, hinterior] at hinner
            exact childrenOf_allValues children hinner
        | verbatim => rfl
        | nothing => rfl
      have hchild : childOf place (element kind ⟨kind.name, attributes, children⟩ inner) =
          .ok (.node kind.name (settledAttributes kind ⟨kind.name, attributes, children⟩)
            (settledBelow kind children)) := by
        rw [childOf_element hplace (by rintro rfl; exact loneFormula?_of_innerValues hinner), hback]
        rfl
      rw [List.singleton_append, childrenOf_cons hchild, settled_node]
      rfl

theorem childrenOf_allValues {parent : String} {place : Place} {values : List Json.Value} :
    (children : List Child) → allValuesOf parent place children = .ok values →
      childrenOf place values = .ok (allSettled children)
  | [], h => by
      obtain rfl : [] = values := Except.ok.inj (allValuesOf_nil.symm.trans h)
      rw [childrenOf_nil, allSettled]
  | c :: rest, h => by
      obtain ⟨first, others, hfirst, hothers, rfl⟩ := exists_append_of_allValuesOf h
      rw [childrenOf_values c hfirst, childrenOf_allValues rest hothers, allSettled]
      rfl

end

def documentOf (version : Version) (blocks : List Json.Value) : Json.Value :=
  .ofMembers [("pandoc-api-version", .array (version.map .natural)), ("meta", .object []),
    ("blocks", .array blocks)]

theorem document_eq_ok_iff {version : Version} {root : Node} {v : Json.Value} :
    document version root = .ok v ↔
      ∃ blocks, blockValues root.children = .ok blocks ∧ v = documentOf version blocks := by
  unfold document
  cases blockValues root.children with
  | error e => simp [bind, Except.bind]
  | ok blocks =>
      simp only [Except.ok.injEq, exists_eq_left']
      exact ⟨fun h => (Except.ok.inj h).symm, fun h => h ▸ rfl⟩

theorem tree_documentOf (version : Version) (blocks : List Json.Value) :
    tree (documentOf version blocks) = (do return Kind.root.node (← blocksOf blocks)) := by
  have hmember : (documentOf version blocks).member? "blocks" = some (.array blocks) :=
    Dictionary.find?_insert_self "blocks" _ _
  rw [tree, hmember]

/-- A tree that is exported is imported as a root over what becomes of its children. -/
theorem tree_of_document {version : Version} {root : Node} {v : Json.Value}
    (h : document version root = .ok v) :
    tree v = .ok (Kind.root.node (allSettled root.children)) := by
  obtain ⟨blocks, hblocks, rfl⟩ := document_eq_ok_iff.mp h
  have hvalues : allValuesOf root.name .block root.children = .ok blocks := hblocks
  have hback : blocksOf blocks = .ok (allSettled root.children) :=
    childrenOf_allValues root.children hvalues
  rw [tree_documentOf, hback]
  rfl

end DocBridge.Pandoc

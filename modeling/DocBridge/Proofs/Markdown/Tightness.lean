import DocBridge.Markdown.Reader
import DocBridge.Proofs.Markdown.Layout
import DocBridge.Proofs.Tree.Leaves
import DocBridge.Tree.Diagram

/-!
# Where plain text stands

Whether a list is tight is settled for the whole list, and its items take it over: text right in an
item becomes plain text in a tight list and a paragraph in another one. So plain text stands in
items only, and no list has plain text in one item and a paragraph in another. This is said of a
node and the two levels below it, hence it holds in a whole tree if it holds at each of its nodes,
which is shown by induction over the blocks. The writer reads the kind of a list off again: it puts
blank lines around items with paragraphs, so it puts none into a list with plain text in any of its
items.
-/

namespace DocBridge

/-- A node has a child of a kind. -/
def Node.Has (n : Node) (kind : Kind) : Prop :=
  ∃ child : Node, ↑child ∈ n.children ∧ child.name = kind.name

namespace Markdown

open Writer (Inside IsList)

variable {n : Node} {name : String} {attributes : Attributes} {children : List Child} {kind : Kind}
  {isPlain isTight : Bool} {blocks : List (Block (List Inline))}
  {items : List (List (Block (List Inline)))} {c : Child}

/-! ### Properties of all nodes in a tree -/

/-- What holds of every node in a child. -/
def Everywhere (P : Node → Prop) (c : Child) : Prop := ∀ above (n : Node), Inside above n c → P n

theorem everywhere_text (P : Node → Prop) (s : String) : Everywhere P (.text s) := by
  intro above n h
  cases h

theorem everywhere_node_iff {P : Node → Prop} : Everywhere P (.node name attributes children) ↔
    P ⟨name, attributes, children⟩ ∧ ∀ c ∈ children, Everywhere P c := by
  constructor
  · intro h
    exact ⟨h [] ⟨name, attributes, children⟩ (.self _),
      fun c hc above n hn => h (name :: above) n (.under hc hn)⟩
  · rintro ⟨hnode, hbelow⟩ above n hn
    cases hn with
    | self => exact hnode
    | under hc hinner => exact hbelow _ hc _ n hinner

/-- A node has plain text among its children only if it is an item, and is no list of items with
plain text and items with paragraphs. -/
structure Consistent (n : Node) : Prop where
  plain_in_item : n.Has .plain → n.name = Kind.listItem.name
  one_kind : IsList n.name → ¬((∃ item : Node, ↑item ∈ n.children ∧ item.Has .plain) ∧
    ∃ item : Node, ↑item ∈ n.children ∧ item.Has .para)

/-- The writer puts no blank line into a list with plain text. -/
theorem Consistent.separator_ne (h : Consistent n) (hlist : IsList n.name)
    (hplain : ∃ item : Node, ↑item ∈ n.children ∧ item.Has .plain) {i : Nat} {item : Node}
    (hitem : n.children[i]? = some ↑item) :
    Writer.separator item ⟨n.children, i⟩ ≠ Writer.blankLine := by
  have hnone : ∀ c ∈ n.children, Writer.isLoose c = false := by
    intro c hc
    cases c with
    | text s => rfl
    | node name attributes below =>
        have hpara : ¬Node.Has ⟨name, attributes, below⟩ .para :=
          fun hpara => h.one_kind hlist ⟨hplain, ⟨name, attributes, below⟩, hc, hpara⟩
        exact Bool.eq_false_iff.mpr (mt (Writer.isLoose_iff ⟨name, attributes, below⟩).mp hpara)
  rw [Writer.separator]
  split
  · decide
  · next next hnext =>
      rw [hnone _ (List.mem_of_getElem? hitem), hnone next (List.mem_of_getElem? hnext)]
      decide

/-! ### Inlines -/

/-- A child that is no plain text. -/
def NotPlain : Child → Prop
  | .text _ => True
  | .node name _ _ => name ≠ Kind.plain.name

/-- Below a node that is neither a list nor has plain text among its children, all is as it is below
its children. -/
theorem everywhere_consistent_of_notPlain (hlist : ¬IsList name)
    (hchildren : ∀ c ∈ children, NotPlain c ∧ Everywhere Consistent c) :
    Everywhere Consistent (.node name attributes children) := by
  refine everywhere_node_iff.mpr ⟨⟨?_, fun h => absurd h hlist⟩, fun c hc => (hchildren c hc).2⟩
  rintro ⟨child, hchild, hplain⟩
  exact absurd hplain (hchildren _ hchild).1

theorem notPlain_and_consistent (hplain : kind ≠ .plain)
    (hlist : ¬(kind = .bulletList ∨ kind = .orderedList))
    (hchildren : ∀ c ∈ children, NotPlain c ∧ Everywhere Consistent c) :
    NotPlain (.node kind.name attributes children) ∧
      Everywhere Consistent (.node kind.name attributes children) :=
  ⟨mt Kind.name_injective hplain,
    everywhere_consistent_of_notPlain (mt Writer.isList_name_iff.mp hlist) hchildren⟩

theorem consistent_text (s : String) : NotPlain (.text s) ∧ Everywhere Consistent (.text s) :=
  ⟨trivial, everywhere_text _ s⟩

/-- A node with a text leaf only. -/
theorem consistent_verbatim (s : String) :
    ∀ c ∈ [Child.text s], NotPlain c ∧ Everywhere Consistent c :=
  List.forall_mem_singleton.mpr (consistent_text s)

mutual

theorem Inline.consistent : (i : Inline) → ∀ c ∈ i.toChild?, NotPlain c ∧ Everywhere Consistent c
  | .text s, c, hc => by
      obtain rfl := Option.some.inj hc
      exact consistent_text s
  | .softBreak, c, hc => by
      obtain rfl := Option.some.inj hc
      exact notPlain_and_consistent (by decide) (by decide) nofun
  | .lineBreak, c, hc => by
      obtain rfl := Option.some.inj hc
      exact notPlain_and_consistent (by decide) (by decide) nofun
  | .emph children, c, hc => by
      obtain rfl := Option.some.inj hc
      exact notPlain_and_consistent (by decide) (by decide) (Inline.allConsistent children)
  | .strong children, c, hc => by
      obtain rfl := Option.some.inj hc
      exact notPlain_and_consistent (by decide) (by decide) (Inline.allConsistent children)
  | .code s, c, hc => by
      obtain rfl := Option.some.inj hc
      exact notPlain_and_consistent (by decide) (by decide) (consistent_verbatim s)
  | .math _ s, c, hc => by
      obtain rfl := Option.some.inj hc
      exact notPlain_and_consistent (by decide) (by decide) (consistent_verbatim s)
  | .link url title children, c, hc => by
      obtain rfl := Option.some.inj hc
      exact notPlain_and_consistent (by decide) (by decide) (Inline.allConsistent children)
  | .image url title children, c, hc => by
      obtain rfl := Option.some.inj hc
      exact notPlain_and_consistent (by decide) (by decide) (Inline.allConsistent children)
  | .html, c, hc => by simp [Inline.toChild?] at hc

theorem Inline.allConsistent : (inlines : List Inline) →
    ∀ c ∈ Inline.toChildren inlines, NotPlain c ∧ Everywhere Consistent c
  | [] => nofun
  | i :: rest => by
      rw [Inline.toChildren]
      split
      · next c hc =>
          exact Child.forall_mem_join (fun s t _ _ => consistent_text (s ++ t))
            (Inline.consistent i c hc) (Inline.allConsistent rest)
      · exact Inline.allConsistent rest

end

/-! ### Blocks -/

namespace Block

theorem mem_toChildren : c ∈ toChildren isPlain blocks ↔ ∃ b ∈ blocks, c ∈ b.toChild? isPlain := by
  induction blocks with
  | nil => simp [toChildren]
  | cons b rest ih => simp [toChildren, ih]

theorem mem_itemChildren : c ∈ itemChildren isTight items ↔
    ∃ item ∈ items, .node Kind.listItem.name ∅ (toChildren isTight item) = c := by
  induction items with
  | nil => simp [itemChildren]
  | cons item rest ih => simp [itemChildren, ih, eq_comm (a := c)]

/-- A block that becomes plain text is right in an item of a tight list, and one that becomes a
paragraph is not. -/
theorem isPlain_of_toChild? {b : Block (List Inline)}
    (hb : .node kind.name attributes children ∈ b.toChild? isPlain) :
    (kind = .plain → isPlain = true) ∧ (kind = .para → isPlain = false) := by
  have hkind : ∀ {other : Kind} {others : Attributes} {below : List Child},
      Child.node other.name others below = .node kind.name attributes children → other = kind :=
    fun h => Kind.name_injective (Child.node.inj h).1
  cases b with
  | paragraph inlines =>
      have hnode := Option.some.inj hb
      unfold paragraphNode at hnode
      split at hnode
      · obtain rfl := hkind hnode
        exact ⟨nofun, nofun⟩
      · obtain rfl := hkind hnode
        cases isPlain <;> simp
  | heading level inlines =>
      obtain rfl := hkind (Option.some.inj hb)
      exact ⟨nofun, nofun⟩
  | code language text =>
      obtain rfl := hkind (Option.some.inj hb)
      exact ⟨nofun, nofun⟩
  | quote blocks =>
      obtain rfl := hkind (Option.some.inj hb)
      exact ⟨nofun, nofun⟩
  | list marker isTight items =>
      obtain rfl := hkind (Option.some.inj hb)
      cases marker <;> exact ⟨nofun, nofun⟩
  | rule => simp [toChild?] at hb
  | html => simp [toChild?] at hb

theorem notPlain_of_mem_toChildren (hc : c ∈ toChildren false blocks) : NotPlain c := by
  obtain ⟨b, -, hb⟩ := mem_toChildren.mp hc
  cases c with
  | text s => trivial
  | node name attributes below =>
      rintro rfl
      exact absurd ((isPlain_of_toChild? hb).1 rfl) (by decide)

/-- The items of a list are all taken from a tight list or all from another one. -/
theorem isTight_of_has {item : Node} (hitem : ↑item ∈ itemChildren isTight items)
    (hkind : item.Has kind) :
    (kind = .plain → isTight = true) ∧ (kind = .para → isTight = false) := by
  obtain ⟨name, attributes, below⟩ := item
  obtain ⟨blocks, -, hblocks⟩ := mem_itemChildren.mp hitem
  obtain ⟨rfl, rfl, rfl⟩ := Child.node.inj hblocks
  obtain ⟨⟨childName, childAttributes, childBelow⟩, hchild, rfl⟩ := hkind
  obtain ⟨b, -, hb⟩ := mem_toChildren.mp hchild
  exact isPlain_of_toChild? hb

theorem consistent_list (name : String) (attributes : Attributes) (isTight : Bool)
    (items : List (List (Block (List Inline)))) :
    Consistent ⟨name, attributes, itemChildren isTight items⟩ := by
  constructor
  · rintro ⟨⟨childName, childAttributes, below⟩, hchild, rfl⟩
    obtain ⟨item, -, hitem⟩ := mem_itemChildren.mp hchild
    have hname : Kind.listItem.name = Kind.plain.name := (Child.node.inj hitem).1
    exact absurd (Kind.name_injective hname) (by decide)
  · rintro - ⟨⟨tight, htight, hplain⟩, loose, hloose, hpara⟩
    have hyes : isTight = true := (isTight_of_has htight hplain).1 rfl
    have hno : isTight = false := (isTight_of_has hloose hpara).2 rfl
    exact absurd (hyes.symm.trans hno) (by decide)

mutual

theorem consistent (isPlain : Bool) : (b : Block (List Inline)) →
    ∀ c ∈ b.toChild? isPlain, Everywhere Consistent c
  | paragraph inlines, c, hc => by
      obtain rfl := Option.some.inj hc
      unfold paragraphNode
      split
      · exact (notPlain_and_consistent (by decide) (by decide) (consistent_verbatim _)).2
      · refine everywhere_consistent_of_notPlain ?_ (Inline.allConsistent inlines)
        rw [Writer.isList_name_iff]
        cases isPlain <;> decide
  | heading level inlines, c, hc => by
      obtain rfl := Option.some.inj hc
      exact (notPlain_and_consistent (by decide) (by decide) (Inline.allConsistent inlines)).2
  | code language text, c, hc => by
      obtain rfl := Option.some.inj hc
      exact (notPlain_and_consistent (by decide) (by decide) (consistent_verbatim text)).2
  | quote blocks, c, hc => by
      obtain rfl := Option.some.inj hc
      exact (notPlain_and_consistent (by decide) (by decide) fun c hc =>
        ⟨notPlain_of_mem_toChildren hc, allConsistent false blocks c hc⟩).2
  | list marker isTight items, c, hc => by
      obtain rfl := Option.some.inj hc
      exact everywhere_node_iff.mpr
        ⟨consistent_list _ _ isTight items, allConsistent_items isTight items⟩
  | rule, c, hc => by simp [toChild?] at hc
  | html, c, hc => by simp [toChild?] at hc

theorem allConsistent (isPlain : Bool) : (blocks : List (Block (List Inline))) →
    ∀ c ∈ toChildren isPlain blocks, Everywhere Consistent c
  | [] => nofun
  | b :: rest => by
      rw [toChildren, List.forall_mem_append]
      refine ⟨fun c hc => consistent isPlain b c ?_, allConsistent isPlain rest⟩
      exact Option.mem_toList.mp hc

theorem allConsistent_items (isTight : Bool) : (items : List (List (Block (List Inline)))) →
    ∀ c ∈ itemChildren isTight items, Everywhere Consistent c
  | [] => nofun
  | item :: rest => by
      rw [itemChildren, List.forall_mem_cons]
      refine ⟨everywhere_node_iff.mpr ⟨⟨fun _ => rfl, ?_⟩, allConsistent isTight item⟩,
        allConsistent_items isTight rest⟩
      exact fun hlist => absurd hlist Writer.not_isList_listItem

end

end Block

theorem Document.everywhere_consistent (document : Document) :
    Everywhere Consistent document.tree := by
  have hroot : ¬IsList Kind.root.name := mt Writer.isList_name_iff.mp (by decide)
  exact everywhere_consistent_of_notPlain hroot fun c hc =>
    ⟨Block.notPlain_of_mem_toChildren hc, Block.allConsistent false document c hc⟩

/-- Plain text is a child of an item, and no list has items with plain text beside items with
paragraphs, whatever is nested in what. Written again, a list with plain text in it gets no blank
line between its items. -/
structure PlainInTightItems (root : Node) : Prop where
  root_not_plain : root.name ≠ Kind.plain.name
  plain_in_item : ∀ above (n child : Node), Inside above n root → ↑child ∈ n.children →
    child.name = Kind.plain.name → n.name = Kind.listItem.name
  one_kind : ∀ above (n : Node), Inside above n root → IsList n.name →
    ¬((∃ item : Node, ↑item ∈ n.children ∧ item.Has .plain) ∧
      ∃ item : Node, ↑item ∈ n.children ∧ item.Has .para)
  no_blank_line : ∀ above (n : Node), Inside above n root → IsList n.name →
    (∃ item : Node, ↑item ∈ n.children ∧ item.Has .plain) →
    ∀ i (item : Node), n.children[i]? = some ↑item →
      Writer.separator item ⟨n.children, i⟩ ≠ Writer.blankLine

theorem Document.plainInTightItems (document : Document) : PlainInTightItems document.tree := by
  have hroot : document.tree.name = Kind.root.name := rfl
  have hconsistent := document.everywhere_consistent
  constructor
  case root_not_plain => rw [hroot]; decide
  case plain_in_item =>
    intro above n child hn hchild hplain
    exact (hconsistent above n hn).plain_in_item ⟨child, hchild, hplain⟩
  case one_kind => exact fun above n hn => (hconsistent above n hn).one_kind
  case no_blank_line =>
    intro above n hn hlist hplain i item hitem
    exact (hconsistent above n hn).separator_ne hlist hplain hitem

/-- It is so in the tree of every document, of which only the shape is needed: documents, quotes and
items hold blocks and lists hold items. The tree of a text is one of them. -/
theorem plain_in_items_of_tight_lists :
    (∀ document : Document, PlainInTightItems document.tree) ∧
      ∀ source, PlainInTightItems (read source) :=
  ⟨Document.plainInTightItems, fun source => (readDocument source).plainInTightItems⟩

-- A paragraph in a quote stays one, though the quote is in an item of a tight list.
example : (read "- a\n- > b").diagram 40 = "root\n└─ BulletList\n   ├─ ListItem\n" ++
    "   │  └─ Plain\n   │     └─ a\n   └─ ListItem\n      └─ BlockQuote\n" ++
    "         └─ Para\n            └─ b" := by decide +kernel

end Markdown

end DocBridge

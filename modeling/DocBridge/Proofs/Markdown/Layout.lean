import DocBridge.Proofs.Markdown.Enclosing

/-!
# Layout is compositional and can be undone

A child in which every item has a list around it is written without a look at the stack or at its
siblings, so its text is its own wherever it stands. A block quote and an item lay out the texts of
their children by putting something before lines. No line is changed otherwise, so taking it away
gives the texts back, whatever stands in them.
-/

namespace DocBridge.Markdown.Writer

variable {α β : Type} {bullet : Char} {marker : Marker} {stack : List Marker} {siblings : Siblings}
  {n : Node} {children : Writing (List String)} {name : String} {attributes : Attributes}
  {below : List Child}

/-! ### Items with a list around them -/

def IsList (name : String) : Prop := name = Kind.bulletList.name ∨ name = Kind.orderedList.name

/-- A child stands inside another, below nodes with these names from the outermost inwards. -/
inductive Inside : List String → Child → Child → Prop
  | self (c : Child) : Inside [] c c
  | under {above : List String} {inner c : Child} {name : String} {attributes : Attributes}
      {children : List Child} (hc : c ∈ children) (h : Inside above inner c) :
      Inside (name :: above) inner (.node name attributes children)

/-- Every item in a child has a list above it that is in the child as well. -/
def SelfContained (c : Child) : Prop :=
  ∀ above (item : Node), Inside above item c → item.name = Kind.listItem.name →
    ∃ name ∈ above, IsList name

theorem isList_name_iff {kind : Kind} :
    IsList kind.name ↔ kind = .bulletList ∨ kind = .orderedList :=
  or_congr ⟨Kind.name_injective, congrArg Kind.name⟩ ⟨Kind.name_injective, congrArg Kind.name⟩

theorem not_isList_listItem : ¬IsList Kind.listItem.name := by
  rw [isList_name_iff]
  decide

theorem selfContained_text (s : String) : SelfContained (.text s) := by
  intro above item h
  cases h

theorem selfContained_node : SelfContained (.node name attributes below) ↔
    IsList name ∨ name ≠ Kind.listItem.name ∧ ∀ c ∈ below, SelfContained c := by
  constructor
  · intro h
    by_cases hlist : IsList name
    · exact .inl hlist
    refine .inr ⟨?_, fun c hc above item hitem hname => ?_⟩
    · intro hname
      obtain ⟨outer, houter, -⟩ := h [] ⟨name, attributes, below⟩ (.self _) hname
      exact absurd houter List.not_mem_nil
    · obtain ⟨outer, houter, houterList⟩ := h (name :: above) item (.under hc hitem) hname
      rcases List.mem_cons.mp houter with rfl | houter
      · exact absurd houterList hlist
      · exact ⟨outer, houter, houterList⟩
  · intro h above item hitem hname
    cases hitem with
    | self =>
        rcases h with hlist | ⟨hne, -⟩
        · exact absurd (hname ▸ hlist) not_isList_listItem
        · exact absurd hname hne
    | under hc hinner =>
        rcases h with hlist | ⟨-, hbelow⟩
        · exact ⟨name, List.mem_cons_self, hlist⟩
        · obtain ⟨outer, houter, houterList⟩ := hbelow _ hc _ item hinner hname
          exact ⟨outer, List.mem_cons_of_mem name houter, houterList⟩

/-! ### Texts that are the same everywhere -/

/-- An action that leaves the stack as it was and does not look at it. -/
def Blind (a : Writing α) : Prop := ∃ result, ∀ stack, a.run stack = .ok result stack

theorem blind_pure (x : α) : Blind (pure x : Writing α) := ⟨x, fun _ => rfl⟩

theorem Blind.bind {a : Writing α} {k : α → Writing β} (ha : Blind a) (hk : ∀ x, Blind (k x)) :
    Blind (a >>= k) := by
  obtain ⟨first, hfirst⟩ := ha
  obtain ⟨next, hnext⟩ := hk first
  refine ⟨next, fun stack => ?_⟩
  rw [EStateM.run_bind, hfirst]
  exact hnext stack

/-- The marker of a list hides the stack from what is inside. -/
theorem Local.blind_within (marker : Marker) (h : Local children) :
    Blind (within marker children) := by
  obtain ⟨result, hresult⟩ := h
  exact ⟨result (some marker), fun stack =>
    run_within_of_ok marker (hresult (marker :: stack))⟩

theorem local_children (bullet : Char) (children : List Child) :
    Local ((traversal bullet).childrenFrom children 0 children) :=
  Traversal.childrenFrom_of_forall local_pure Local.bind 0 fun c _ siblings =>
    local_child bullet siblings c

theorem blind_list (hlist : IsList n.name) :
    Blind ((traversal bullet).handler n.name n siblings
      ((traversal bullet).childrenFrom n.children 0 n.children)) := by
  have hlocal := local_children bullet n.children
  rcases hlist with h | h
  · rw [h, handler_name]
    exact (hlocal.blind_within _).bind fun _ => blind_pure _
  · rw [h, handler_name]
    exact (hlocal.blind_within _).bind fun _ => blind_pure _

theorem blind_handler (hlist : ¬IsList name) (hitem : name ≠ Kind.listItem.name)
    (h : Blind children) : Blind ((traversal bullet).handler name n siblings children) := by
  obtain hfallback | ⟨kind, rfl, hkind⟩ := handler_cases bullet name
  · rw [hfallback]
    exact h.bind fun _ => blind_pure _
  · rw [hkind]
    exact handler_of_closed blind_pure Blind.bind
      (fun hlists => absurd (isList_name_iff.mpr hlists) hlist)
      (fun hitems => absurd (congrArg Kind.name hitems) hitem) h

/-- Only items look at their siblings. -/
theorem handler_siblings (hitem : name ≠ Kind.listItem.name) (siblings siblings' : Siblings) :
    (traversal bullet).handler name n siblings children =
      (traversal bullet).handler name n siblings' children := by
  obtain hfallback | ⟨kind, rfl, hkind⟩ := handler_cases bullet name
  · rw [hfallback]
    rfl
  · rw [hkind]
    cases kind with
    | listItem => exact absurd rfl hitem
    | _ => rfl

theorem SelfContained.blind {c : Child} (h : SelfContained c) (siblings : Siblings) :
    Blind ((traversal bullet).child siblings c) := by
  match c with
  | .text s => exact blind_pure _
  | .node name attributes below =>
      rw [Traversal.child]
      by_cases hlist : IsList name
      -- A list hides the stack, so nothing is asked of what is in it.
      · exact blind_list (n := ⟨name, attributes, below⟩) hlist
      obtain ⟨hitem, hbelow⟩ := (selfContained_node.mp h).resolve_left hlist
      refine blind_handler hlist hitem ?_
      exact Traversal.childrenFrom_of_forall blind_pure Blind.bind 0 fun d hd siblings =>
        (hbelow d hd).blind siblings
termination_by c

theorem SelfContained.child_siblings {c : Child} (h : SelfContained c)
    (siblings siblings' : Siblings) :
    (traversal bullet).child siblings c = (traversal bullet).child siblings' c := by
  cases c with
  | text s => rfl
  | node name attributes below =>
      have hitem : name ≠ Kind.listItem.name := by
        rcases selfContained_node.mp h with hlist | ⟨hitem, -⟩
        · intro hname
          exact not_isList_listItem (hname ▸ hlist)
        · exact hitem
      rw [Traversal.child, Traversal.child]
      exact handler_siblings hitem siblings siblings'

/-- The text of a child that is written on its own. -/
def ownText (bullet : Char) (c : Child) : String := written bullet [] .root c

theorem SelfContained.written_eq {c : Child} (h : SelfContained c) (stack : List Marker)
    (siblings : Siblings) : written bullet stack siblings c = ownText bullet c := by
  have hblind : Blind ((traversal bullet).child .root c) := h.blind .root
  obtain ⟨result, hresult⟩ := hblind
  have hown := run_child bullet .root c []
  rw [hresult] at hown
  refine written_eq_of_run ?_
  rw [h.child_siblings siblings .root, hresult, (EStateM.Result.ok.inj hown).1, ownText]

theorem texts_of_selfContained {children : List Child} (h : ∀ c ∈ children, SelfContained c)
    (stack : List Marker) : texts bullet stack children = children.map (ownText bullet) := by
  apply List.ext_getElem?
  intro i
  rw [texts, List.getElem?_mapIdx, List.getElem?_map]
  cases hc : children[i]? with
  | none => rfl
  | some c =>
      have hmem : c ∈ children := List.mem_of_getElem? hc
      exact congrArg some ((h c hmem).written_eq stack _)

/-! ### Taking away what was put before lines -/

/-- A line without the bracket of a block quote. -/
def unquoteLine? (line : String) : Option String :=
  match line.toList with
  | ['>'] => some ""
  | '>' :: ' ' :: rest => some (String.ofList rest)
  | _ => none

/-- A text without the brackets of a block quote. -/
def unquote? (s : String) : Option String :=
  ((Text.lines s).mapM unquoteLine?).map Text.joinLines

/-- A line without an indentation; an empty line has none. -/
def unindentLine? (width : Nat) (line : String) : Option String :=
  if line = "" then some ""
  else if line.toList.take width = List.replicate width ' ' then
    some (String.ofList (line.toList.drop width))
  else none

/-- A text without the indentation of the lines after the first. -/
def unindent? (width : Nat) (s : String) : Option String :=
  match Text.lines s with
  | [] => none
  | first :: rest =>
    (rest.mapM (unindentLine? width)).map fun rest => Text.joinLines (first :: rest)

theorem unquoteLine?_quoted (line : String) :
    unquoteLine? (if line = "" then ">" else "> " ++ line) = some line := by
  split
  · next h => rw [h]; rfl
  · rw [unquoteLine?, String.toList_append]
    exact congrArg some String.ofList_toList

theorem unquote?_quoteLines (s : String) : unquote? (quoteLines s) = some s := by
  have hlines : Text.lines (quoteLines s) =
      (Text.lines s).map fun line => if line = "" then ">" else "> " ++ line := by
    apply Text.lines_joinLines
    · exact mt List.map_eq_nil_iff.mp (Text.lines_ne_nil s)
    · intro quoted hquoted
      obtain ⟨line, hline, rfl⟩ := List.mem_map.mp hquoted
      have hfeed : '\n' ∉ line.toList := Text.not_mem_of_mem_lines hline
      split
      · decide
      · simpa using hfeed
  rw [unquote?, hlines, Text.mapM_map_of_leftInverse unquoteLine?_quoted, Option.map_some,
    Text.joinLines_lines]

theorem unindentLine?_indented (width : Nat) (line : String) :
    unindentLine? width
      (if line = "" then "" else String.ofList (List.replicate width ' ') ++ line) = some line := by
  split
  · next h => rw [h]; rfl
  · next h =>
    have hne : String.ofList (List.replicate width ' ') ++ line ≠ "" := by
      intro happend
      exact h (String.append_eq_empty_iff.mp happend).2
    have htake : (String.ofList (List.replicate width ' ') ++ line).toList.take width =
        List.replicate width ' ' := by
      simp
    rw [unindentLine?, if_neg hne, if_pos htake]
    simp

theorem unindent?_indented (width : Nat) (s : String) :
    unindent? width (indented width s) = some s := by
  cases hs : Text.lines s with
  | nil => exact absurd hs (Text.lines_ne_nil s)
  | cons first rest =>
      have hfeeds : ∀ line ∈ first :: rest, '\n' ∉ line.toList := by
        intro line hline
        rw [← hs] at hline
        exact Text.not_mem_of_mem_lines hline
      have hlines : Text.lines (indented width s) = first :: rest.map fun line =>
          if line = "" then "" else String.ofList (List.replicate width ' ') ++ line := by
        rw [indented, hs]
        apply Text.lines_joinLines (List.cons_ne_nil _ _)
        intro line hline
        rcases List.mem_cons.mp hline with rfl | hline
        · exact hfeeds _ List.mem_cons_self
        · obtain ⟨plain, hplain, rfl⟩ := List.mem_map.mp hline
          have hfeed : '\n' ∉ plain.toList := hfeeds plain (List.mem_cons_of_mem first hplain)
          split
          · decide
          · simpa using hfeed
      rw [unindent?, hlines]
      simp only
      rw [Text.mapM_map_of_leftInverse (unindentLine?_indented width), Option.map_some, ← hs,
        Text.joinLines_lines]

/-! ### Quotes and items -/

def HoldsParagraph (item : Node) : Prop :=
  ∃ paragraph : Node, ↑paragraph ∈ item.children ∧ paragraph.name = Kind.para.name

theorem isLoose_iff (item : Node) : isLoose item = true ↔ HoldsParagraph item := by
  rw [Child.ofNode, isLoose, List.any_eq_true]
  constructor
  · intro ⟨c, hc, hpara⟩
    cases c with
    | text s => cases hpara
    | node name attributes below => exact ⟨⟨name, attributes, below⟩, hc, eq_of_beq hpara⟩
  · intro ⟨paragraph, hparagraph, hname⟩
    exact ⟨paragraph, hparagraph, beq_iff_eq.mpr hname⟩

instance (item : Node) : Decidable (HoldsParagraph item) :=
  decidable_of_iff (isLoose item = true) (isLoose_iff item)

theorem written_blockQuote (h : n.name = Kind.blockQuote.name) :
    written bullet stack siblings n =
      quoteLines (String.intercalate blankLine (texts bullet stack n.children)) :=
  written_of_parts h rfl

/-- The children of a self-contained block quote are self-contained. -/
theorem SelfContained.of_blockQuote (h : SelfContained n) (hname : n.name = Kind.blockQuote.name) :
    ∀ c ∈ n.children, SelfContained c := by
  have hlist : ¬IsList n.name := by
    rw [hname, isList_name_iff]
    decide
  exact ((selfContained_node.mp h).resolve_left hlist).2

/-- A self-contained node is written as it is on its own, whatever lists are around it and whatever
its siblings are. A self-contained block quote without its brackets is the texts of its children
with blank lines between them. A list is the texts of its children, and that of an item, if what is
in it is self-contained, is its marker, the texts of its own children with the lines after the first
indented by the marker's length, and its separator. -/
theorem layout_undone (bullet : Char) :
    (∀ n : Node, SelfContained n → ∀ stack siblings,
      written bullet stack siblings n = write bullet n) ∧
    (∀ quote : Node, quote.name = Kind.blockQuote.name → SelfContained quote →
      ∀ stack siblings, unquote? (written bullet stack siblings quote) =
        some (String.intercalate "\n\n" (quote.children.map (ownText bullet)))) ∧
    (∀ (list : Node) marker, markerOf? bullet list = some marker → ∀ stack siblings,
      written bullet stack siblings list = concat (texts bullet (marker :: stack) list.children) ∧
      ∀ (item : Node) i, list.children[i]? = some ↑item → item.name = Kind.listItem.name →
        (∀ c ∈ item.children, SelfContained c) → ∃ body,
          (texts bullet (marker :: stack) list.children)[i]? =
              some (marker.text i ++ body ++ separator item ⟨list.children, i⟩) ∧
            unindent? (marker.text i).length body =
              some (String.intercalate (if HoldsParagraph item then "\n\n" else "\n")
                (item.children.map (ownText bullet)))) := by
  refine ⟨?alone, ?quotes, ?items⟩
  case alone =>
    intro n h stack siblings
    rw [write_eq_written]
    exact h.written_eq stack siblings
  case quotes =>
    intro quote hname h stack siblings
    rw [written_blockQuote hname, unquote?_quoteLines,
      texts_of_selfContained (h.of_blockQuote hname)]
    rfl
  case items =>
    intro list marker hmarker stack siblings
    refine ⟨written_list hmarker, fun item i hlist hitem h => ?_⟩
    refine ⟨indented (marker.text i).length (itemBody bullet (marker :: stack) item), ?_, ?_⟩
    · rw [texts_getElem? hlist, written_item hitem]
    · rw [unindent?_indented, itemBody, texts_of_selfContained h]
      simp only [isLoose_iff]
      rfl

/-- A quote of a line that looks like a quote and of a list, in an item of a list. -/
theorem layout_undone_nested :
    let quote := Kind.blockQuote.node [Kind.para.node [.text "> a"],
      Kind.bulletList.node [Kind.listItem.node [.text "b", .text "  c"]]]
    let item := Kind.listItem.node [Kind.plain.node [.text "1. d"], quote]
    let list := Kind.orderedList.node [item]
    write '-' list = "1. 1. d\n   > > a\n   >\n   > - b\n   >     c" ∧
      written '-' [.ofOrderedList list] ⟨item.children, 1⟩ quote = write '-' quote ∧
      unquote? (write '-' quote) = some "> a\n\n- b\n    c" ∧
      ∃ body, write '-' list = "1. " ++ body ∧
        unindent? 3 body = some "1. d\n> > a\n>\n> - b\n>     c" := by
  intro quote item list
  have hbullets : SelfContained
      (Kind.bulletList.node [Kind.listItem.node [.text "b", .text "  c"]]) :=
    selfContained_node.mpr (.inl (.inl rfl))
  have hpara : SelfContained (Kind.para.node [.text "> a"]) := by
    refine selfContained_node.mpr (.inr ⟨by decide, ?_⟩)
    exact List.forall_mem_singleton.mpr (selfContained_text "> a")
  have hquote : SelfContained quote := by
    refine selfContained_node.mpr (.inr ⟨by decide, ?_⟩)
    exact List.forall_mem_cons.mpr ⟨hpara, List.forall_mem_singleton.mpr hbullets⟩
  have hplain : SelfContained (Kind.plain.node [.text "1. d"]) := by
    refine selfContained_node.mpr (.inr ⟨by decide, ?_⟩)
    exact List.forall_mem_singleton.mpr (selfContained_text "1. d")
  have hitem : ∀ c ∈ item.children, SelfContained c :=
    List.forall_mem_cons.mpr ⟨hplain, List.forall_mem_singleton.mpr hquote⟩
  obtain ⟨halone, hquotes, hlists⟩ := layout_undone '-'
  have hunquoted := hquotes quote rfl hquote [] .root
  obtain ⟨hlist, hitems⟩ := hlists list (.ofOrderedList list) rfl [] .root
  obtain ⟨body, htext, hbody⟩ := hitems item 0 rfl rfl hitem
  have hmarker : (Marker.ofOrderedList list).text 0 = "1. " := by decide +kernel
  have hseparator : separator item ⟨list.children, 0⟩ = "" := rfl
  rw [hmarker, hseparator, String.append_empty] at htext
  rw [hmarker] at hbody
  have hwritten : write '-' list = "1. " ++ body := by
    have honly : texts '-' [.ofOrderedList list] list.children =
        [written '-' [.ofOrderedList list] ⟨list.children, 0⟩ item] := rfl
    rw [honly] at htext
    rw [write_eq_written, hlist, honly, concat_singleton]
    exact Option.some.inj htext
  refine ⟨by decide +kernel, halone quote hquote _ _, ?_, body, hwritten, ?_⟩
  · rw [write_eq_written, hunquoted]
    decide +kernel
  · have hwidth : "1. ".length = 3 := rfl
    rw [← hwidth, hbody]
    decide +kernel

end DocBridge.Markdown.Writer

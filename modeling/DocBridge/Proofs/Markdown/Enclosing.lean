import DocBridge.Markdown.Writer
import DocBridge.Proofs.Dictionary
import DocBridge.Proofs.Text.Lines
import Mathlib.Algebra.Group.Nat.Defs
import Mathlib.Tactic.Choose

/-!
# Written texts and the lists around them

A list puts its marker on the stack while its children are written and takes it off again; nothing
else changes the stack, and what is read of it is the innermost marker. So whatever is written
leaves the stack as it was, the children of a node are all written with the same stack, and an item
finds the marker of its list whatever lists have come in the items before it.
-/

namespace DocBridge.Markdown.Writer

variable {α β : Type} {bullet : Char} {marker : Marker} {stack : List Marker} {siblings : Siblings}
  {n : Node} {children : Writing (List String)}

/-! ### Actions on the stack -/

/-- The stack that an action leaves, also when it fails. -/
def left (a : Writing α) (stack : List Marker) : List Marker :=
  match a.run stack with
  | .ok _ left => left
  | .error _ left => left

/-- An action leaves the stack as it was, also when it fails. -/
def KeepsStack (a : Writing α) : Prop := ∀ stack, left a stack = stack

theorem keepsStack_pure (x : α) : KeepsStack (pure x : Writing α) := fun _ => rfl

theorem KeepsStack.bind {a : Writing α} {k : α → Writing β} (ha : KeepsStack a)
    (hk : ∀ x, KeepsStack (k x)) : KeepsStack (a >>= k) := by
  intro stack
  have hfirst := ha stack
  rw [left] at hfirst ⊢
  rw [EStateM.run_bind]
  cases hrun : a.run stack with
  | ok x middle =>
      obtain rfl : middle = stack := by simpa [hrun] using hfirst
      exact hk x middle
  | error e middle => simpa [hrun] using hfirst

/-- The marker is taken off again whether or not the children are written. -/
theorem keepsStack_within (h : KeepsStack children) (marker : Marker) :
    KeepsStack (within marker children) := by
  intro stack
  have hinner := h (marker :: stack)
  rw [left] at hinner ⊢
  rw [run_within]
  cases hrun : children.run (marker :: stack) with
  | ok parts inner =>
      obtain rfl : inner = marker :: stack := by simpa [hrun] using hinner
      rfl
  | error e inner =>
      obtain rfl : inner = marker :: stack := by simpa [hrun] using hinner
      rfl

theorem keepsStack_itemMarker (bullet : Char) (index : Nat) :
    KeepsStack (itemMarker bullet index) := fun _ => rfl

theorem keepsStack_handler (bullet : Char) (kind : Kind) (n : Node) (siblings : Siblings)
    (h : KeepsStack children) : KeepsStack (handler bullet kind n siblings children) :=
  handler_of_closed keepsStack_pure KeepsStack.bind (fun _ => keepsStack_within h)
    (fun _ => keepsStack_itemMarker bullet _) h

/-- An action that succeeds, leaves the stack as it was and reads the innermost marker only. -/
def Local (a : Writing α) : Prop :=
  ∃ result : Option Marker → α, ∀ stack, a.run stack = .ok (result stack.head?) stack

theorem local_pure (x : α) : Local (pure x : Writing α) := ⟨fun _ => x, fun _ => rfl⟩

theorem Local.bind {a : Writing α} {k : α → Writing β} (ha : Local a) (hk : ∀ x, Local (k x)) :
    Local (a >>= k) := by
  obtain ⟨first, hfirst⟩ := ha
  choose next hnext using hk
  refine ⟨fun innermost => next (first innermost) innermost, fun stack => ?_⟩
  rw [EStateM.run_bind, hfirst]
  exact hnext _ stack

theorem local_itemMarker (bullet : Char) (index : Nat) : Local (itemMarker bullet index) :=
  ⟨fun innermost => (innermost.getD (.bullet bullet)).text index, fun _ => rfl⟩

theorem run_within_of_ok (marker : Marker) {parts : List String}
    (h : children.run (marker :: stack) = .ok parts (marker :: stack)) :
    (within marker children).run stack = .ok parts stack := by
  rw [run_within, h]
  rfl

theorem local_within (h : Local children) (marker : Marker) : Local (within marker children) := by
  obtain ⟨result, hresult⟩ := h
  exact ⟨fun _ => result (some marker),
    fun stack => run_within_of_ok marker (hresult (marker :: stack))⟩

theorem local_child (bullet : Char) (siblings : Siblings) (c : Child) :
    Local ((traversal bullet).child siblings c) :=
  child_of_closed local_pure Local.bind local_within (local_itemMarker bullet) siblings c

/-- Whatever an action gives is one text. -/
def GivesOne (a : Writing (Transformed String)) : Prop :=
  ∀ stack x left, a.run stack = .ok x left → ∃ text, x = .one text

theorem givesOne_pure (text : String) : GivesOne (pure (.one text)) := by
  intro stack x left h
  exact ⟨text, (EStateM.Result.ok.inj h).1.symm⟩

theorem givesOne_bind {a : Writing α} {k : α → Writing (Transformed String)}
    (hk : ∀ x, GivesOne (k x)) : GivesOne (a >>= k) := by
  intro stack x left h
  rw [EStateM.run_bind] at h
  cases hrun : a.run stack with
  | ok y middle =>
      rw [hrun] at h
      exact hk y middle x left h
  | error e middle => simp [hrun] at h

theorem givesOne_child (bullet : Char) (siblings : Siblings) (c : Child) :
    GivesOne ((traversal bullet).child siblings c) := by
  cases c with
  | text s => exact givesOne_pure s
  | node name attributes children =>
      rw [Traversal.child]
      obtain hfallback | ⟨kind, -, hkind⟩ := handler_cases bullet name
      · rw [hfallback]
        exact givesOne_bind fun _ => givesOne_pure _
      · rw [hkind]
        cases kind with
        | codeBlock | mathBlock | code | math | softBreak | lineBreak => exact givesOne_pure _
        | listItem => exact givesOne_bind fun _ => givesOne_bind fun _ => givesOne_pure _
        | _ => exact givesOne_bind fun _ => givesOne_pure _

/-! ### Texts -/

/-- The text that is given for a child at a place, with these markers on the stack. -/
def written (bullet : Char) (stack : List Marker) (siblings : Siblings) (c : Child) : String :=
  concat ((succeeds_child bullet siblings c).value stack).toList

/-- The texts of the children of a node. -/
def texts (bullet : Char) (stack : List Marker) (children : List Child) : List String :=
  children.mapIdx fun i c => written bullet stack ⟨children, i⟩ c

theorem concat_singleton (s : String) : concat [s] = s := by
  simp [concat, String.join]

theorem run_child (bullet : Char) (siblings : Siblings) (c : Child) (stack : List Marker) :
    ((traversal bullet).child siblings c).run stack =
      .ok (.one (written bullet stack siblings c)) stack := by
  obtain ⟨result, hresult⟩ := local_child bullet siblings c
  have hrun := hresult stack
  obtain ⟨text, htext⟩ := givesOne_child bullet siblings c stack _ _ hrun
  rw [htext] at hrun
  rw [hrun, written, (succeeds_child bullet siblings c).value_eq hrun, Transformed.toList,
    concat_singleton]

theorem written_eq_of_run {bullet : Char} {siblings : Siblings} {c : Child} {stack : List Marker}
    {text : String} (h : ((traversal bullet).child siblings c).run stack = .ok (.one text) stack) :
    written bullet stack siblings c = text := by
  rw [run_child] at h
  exact Transformed.one.inj (EStateM.Result.ok.inj h).1

theorem run_tree (bullet : Char) (root : Node) (stack : List Marker) :
    (tree bullet root).run stack = .ok (written bullet stack .root root) stack := by
  rw [tree, EStateM.run_bind, Traversal.run, run_child]
  exact congrArg (EStateM.Result.ok · stack) (concat_singleton _)

theorem write_eq_written (bullet : Char) (root : Node) :
    write bullet root = written bullet [] .root root :=
  (succeeds_tree bullet root).value_eq (run_tree bullet root [])

theorem run_childrenFrom (bullet : Char) (stack : List Marker) (all : List Child) (index : Nat)
    (children : List Child) :
    ((traversal bullet).childrenFrom all index children).run stack =
      .ok (children.mapIdx fun i c => written bullet stack ⟨all, index + i⟩ c) stack := by
  induction children generalizing index with
  | nil => rfl
  | cons c rest ih =>
      have hplaces : (fun i d => written bullet stack ⟨all, index + 1 + i⟩ d) =
          fun i d => written bullet stack ⟨all, index + (i + 1)⟩ d := by
        funext i d
        rw [Nat.add_assoc, Nat.add_comm 1 i]
      rw [Traversal.childrenFrom, EStateM.run_bind, run_child]
      simp only
      rw [EStateM.run_bind, ih (index + 1), List.mapIdx_cons, hplaces]
      rfl

/-- The children of a node are all written with the same stack, and it is left as it was. -/
theorem run_children (bullet : Char) (stack : List Marker) (children : List Child) :
    ((traversal bullet).childrenFrom children 0 children).run stack =
      .ok (texts bullet stack children) stack := by
  rw [run_childrenFrom, texts]
  simp only [Nat.zero_add]

/-- A node is written by the handler of its kind. -/
theorem written_node {bullet : Char} {stack : List Marker} {siblings : Siblings} {n : Node}
    {kind : Kind} {text : String} (h : n.name = kind.name)
    (hrun : (handler bullet kind n siblings
      ((traversal bullet).childrenFrom n.children 0 n.children)).run stack =
        .ok (.one text) stack) : written bullet stack siblings n = text := by
  refine written_eq_of_run ?_
  rw [Child.ofNode, Traversal.child, h, handler_name, ← h]
  exact hrun

/-- The text of a node whose handler makes it from the texts of the children. -/
theorem written_of_parts {kind : Kind} {text : List String → String} (hname : n.name = kind.name)
    (h : handler bullet kind n siblings = fun children => do return .one (text (← children))) :
    written bullet stack siblings n = text (texts bullet stack n.children) := by
  refine written_node hname ?_
  rw [h, EStateM.run_bind, run_children]
  rfl

theorem written_root (h : n.name = Kind.root.name) : written bullet stack siblings n =
    String.intercalate blankLine (texts bullet stack n.children) :=
  written_of_parts h rfl

theorem written_para (h : n.name = Kind.para.name) :
    written bullet stack siblings n = concat (texts bullet stack n.children) :=
  written_of_parts h rfl

theorem written_header (h : n.name = Kind.header.name) : written bullet stack siblings n =
    headingMark n ++ " " ++ concat (texts bullet stack n.children) :=
  written_of_parts h rfl

/-- The text of a node whose handler makes it from the node alone. -/
theorem written_of_node {kind : Kind} {text : String} (hname : n.name = kind.name)
    (h : handler bullet kind n siblings = fun _ => return .one text) :
    written bullet stack siblings n = text := by
  refine written_node hname ?_
  rw [h]
  rfl

theorem written_softBreak (h : n.name = Kind.softBreak.name) :
    written bullet stack siblings n = "\n" :=
  written_of_node h rfl

/-! ### Lists and items -/

/-- The marker that a node puts on the stack, if it is a list. -/
def markerOf? (bullet : Char) (n : Node) : Option Marker :=
  if n.name = Kind.bulletList.name then some (.bullet bullet)
  else if n.name = Kind.orderedList.name then some (.ofOrderedList n)
  else none

theorem run_list (marker : Marker) (stack : List Marker) (children : List Child) :
    (within marker ((traversal bullet).childrenFrom children 0 children)).run stack =
      .ok (texts bullet (marker :: stack) children) stack :=
  run_within_of_ok marker (run_children bullet (marker :: stack) children)

theorem written_list (h : markerOf? bullet n = some marker) :
    written bullet stack siblings n = concat (texts bullet (marker :: stack) n.children) := by
  rw [markerOf?] at h
  split at h
  · next hname =>
    obtain rfl := Option.some.inj h
    refine written_node hname ?_
    rw [handler, EStateM.run_bind, run_list]
    rfl
  · split at h
    · next hname =>
      obtain rfl := Option.some.inj h
      refine written_node hname ?_
      rw [handler, EStateM.run_bind, run_list]
      rfl
    · cases h

/-- A text with its lines after the first indented. -/
def indented (width : Nat) (s : String) : String :=
  match Text.lines s with
  | [] => ""
  | first :: rest => Text.joinLines (first :: rest.map fun line =>
      if line = "" then "" else String.ofList (List.replicate width ' ') ++ line)

theorem hang_eq_append (marker s : String) :
    hang marker s = marker ++ indented marker.length s := by
  rw [hang, indented]
  cases Text.lines s with
  | nil => rw [String.append_empty]
  | cons first rest => exact Text.joinLines_append_cons marker first _

/-- The text of what is in an item. -/
def itemBody (bullet : Char) (stack : List Marker) (item : Node) : String :=
  String.intercalate (if isLoose item then blankLine else "\n") (texts bullet stack item.children)

/-- An item begins with the marker of the innermost list, or with a bullet where there is none, and
ends with its separator. -/
theorem written_listItem (h : n.name = Kind.listItem.name) :
    let mark := (stack.head?.getD (.bullet bullet)).text siblings.index
    written bullet stack siblings n =
      mark ++ indented mark.length (itemBody bullet stack n) ++ separator n siblings := by
  intro mark
  have hmark : (itemMarker bullet siblings.index).run stack = .ok mark stack := rfl
  refine written_node h ?_
  rw [handler, EStateM.run_bind, hmark]
  simp only
  rw [EStateM.run_bind, run_children, ← hang_eq_append]
  rfl

theorem written_item (h : n.name = Kind.listItem.name) :
    written bullet (marker :: stack) siblings n =
      marker.text siblings.index ++
        indented (marker.text siblings.index).length (itemBody bullet (marker :: stack) n) ++
        separator n siblings :=
  written_listItem h

theorem texts_getElem? {children : List Child} {i : Nat} {c : Child} (h : children[i]? = some c) :
    (texts bullet stack children)[i]? = some (written bullet stack ⟨children, i⟩ c) := by
  rw [texts, List.getElem?_mapIdx, h]
  rfl

/-- Trees written one after another with one stack. -/
def writeEach (bullet : Char) (trees : List Node) : Writing (List String) :=
  trees.mapM (tree bullet)

theorem run_writeEach (bullet : Char) (trees : List Node) :
    (writeEach bullet trees).run [] = .ok (trees.map (write bullet)) [] := by
  induction trees with
  | nil => rfl
  | cons root rest ih =>
      rw [writeEach] at ih ⊢
      rw [List.mapM_cons, EStateM.run_bind, run_tree, ← write_eq_written]
      simp only
      rw [EStateM.run_bind, ih]
      rfl

/-- The text of an item after those of a list's earlier children. -/
theorem item_after_marker (bullet : Char) {list item : Node} {i : Nat}
    (hlist : list.children[i]? = some ↑item) (hitem : item.name = Kind.listItem.name)
    (marker : Marker) (stack : List Marker) :
    ∃ rest, (texts bullet (marker :: stack) list.children)[i]? = some (marker.text i ++ rest) := by
  rw [texts_getElem? hlist, written_item hitem, String.append_assoc]
  exact ⟨_, rfl⟩

/-- In every list the children are written one after another with the marker of the list, whatever
they are and wherever the list is, and an item that is child number `i` begins with the number
`start + i`, at most the greatest there is, or with the bullet. Every dispatch leaves the stack as
it was, and a handler does so even when its children fail, so a writer that is used again writes as
a new one does. -/
theorem items_marked_and_stack_kept (bullet : Char) :
    (∀ stack siblings c, ((traversal bullet).child siblings c).run stack =
      .ok (.one (written bullet stack siblings c)) stack) ∧
    (∀ kind n siblings children, KeepsStack children →
      KeepsStack (handler bullet kind n siblings children)) ∧
    (∀ (list : Node) marker, markerOf? bullet list = some marker → ∀ stack siblings,
      ((traversal bullet).childrenFrom list.children 0 list.children).run (marker :: stack) =
          .ok (texts bullet (marker :: stack) list.children) (marker :: stack) ∧
        written bullet stack siblings list =
          concat (texts bullet (marker :: stack) list.children)) ∧
    (∀ (list item : Node) (i : Nat), list.name = Kind.orderedList.name →
      list.children[i]? = some ↑item → item.name = Kind.listItem.name →
      markerOf? bullet list = some (.ofOrderedList list) ∧ ∀ stack, ∃ rest,
        (texts bullet (.ofOrderedList list :: stack) list.children)[i]? =
          some (toString (min ((list.natural? "start").getD 1 + i) (2 ^ 64 - 1)) ++
            (if list.string? "delimiter" = some ")" then ") " else ". ") ++ rest)) ∧
    (∀ (list item : Node) (i : Nat), list.name = Kind.bulletList.name →
      list.children[i]? = some ↑item → item.name = Kind.listItem.name →
      markerOf? bullet list = some (.bullet bullet) ∧ ∀ stack, ∃ rest,
        (texts bullet (.bullet bullet :: stack) list.children)[i]? =
          some (String.ofList [bullet, ' '] ++ rest)) ∧
    ∀ trees, (writeEach bullet trees).run [] = .ok (trees.map (write bullet)) [] := by
  refine ⟨fun stack siblings c => run_child bullet siblings c stack,
    fun kind n siblings children => keepsStack_handler bullet kind n siblings, ?lists, ?numbers,
    ?bullets, run_writeEach bullet⟩
  case lists =>
    intro list marker hmarker stack siblings
    exact ⟨run_children bullet (marker :: stack) list.children, written_list hmarker⟩
  case numbers =>
    intro list item i hname hlist hitem
    have hmarker : markerOf? bullet list = some (.ofOrderedList list) := by
      rw [markerOf?, hname, if_neg (by decide), if_pos rfl]
    refine ⟨hmarker, fun stack => ?_⟩
    obtain ⟨rest, hrest⟩ := item_after_marker bullet hlist hitem (.ofOrderedList list) stack
    refine ⟨rest, ?_⟩
    rw [hrest, Marker.ofOrderedList, Marker.text]
    split <;> rfl
  case bullets =>
    intro list item i hname hlist hitem
    have hmarker : markerOf? bullet list = some (.bullet bullet) := by
      rw [markerOf?, hname, if_pos rfl]
    exact ⟨hmarker, item_after_marker bullet hlist hitem (.bullet bullet)⟩

/-- The second number comes after a list in the first item. -/
example : write '-' (Kind.orderedList.node
    [Kind.listItem.node
        [Kind.plain.node [.text "a"], Kind.bulletList.node [Kind.listItem.node [.text "b"]]],
      Kind.listItem.node [.text "c"]]) = "1. a\n   - b\n2. c" := by
  decide +kernel

end DocBridge.Markdown.Writer

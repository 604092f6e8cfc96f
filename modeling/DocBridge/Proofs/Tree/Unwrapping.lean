import DocBridge.Proofs.Dictionary
import DocBridge.Proofs.Tree.Leaves
import DocBridge.Tree.Editing

/-!
# Unwrapping nodes

A node is unwrapped when its children are put in its place. The edit that unwraps the nodes of some
kinds goes over the tree once: the children are unwrapped before their results are put among those
of the siblings, so nodes that lie directly in one another leave one flat list. What the edit does
is said without a traversal by `Child.unwrapped`, and what is left of the nodes and the text leaves
follows by induction on the tree.
-/

namespace DocBridge

/-- Puts the results for the children of a node in the place of the node. -/
def unwrap : Handler (Except Error) Child := fun _ _ children => return .many (← children)

def unwrapping (kinds : List String) : Handlers (Except Error) Child :=
  .ofEntries (kinds.map fun kind => (kind, unwrap))

namespace Child

variable {kinds : List String} {c : Child}

mutual

/-- What becomes of a child when the nodes of some kinds are unwrapped. -/
def unwrapped (kinds : List String) : Child → List Child
  | text s => [text s]
  | node name attributes children =>
    if name ∈ kinds then unwrappedAll kinds children
    else [node name attributes (unwrappedAll kinds children)]

def unwrappedAll (kinds : List String) : List Child → List Child
  | [] => []
  | c :: rest => unwrapped kinds c ++ unwrappedAll kinds rest

end

mutual

/-- Names and attributes of the nodes, in document order. -/
def labels : Child → List (String × Attributes)
  | text _ => []
  | node name attributes children => (name, attributes) :: labelsOfAll children

def labelsOfAll : List Child → List (String × Attributes)
  | [] => []
  | c :: rest => labels c ++ labelsOfAll rest

end

/-! ### Lists put together -/

theorem unwrappedAll_append (front back : List Child) :
    unwrappedAll kinds (front ++ back) = unwrappedAll kinds front ++ unwrappedAll kinds back := by
  induction front with
  | nil => rfl
  | cons c rest ih =>
      rw [List.cons_append, unwrappedAll, unwrappedAll, ih, List.append_assoc]

theorem labelsOfAll_append (front back : List Child) :
    labelsOfAll (front ++ back) = labelsOfAll front ++ labelsOfAll back := by
  induction front with
  | nil => rfl
  | cons c rest ih => rw [List.cons_append, labelsOfAll, labelsOfAll, ih, List.append_assoc]

@[simp] theorem unwrappedAll_singleton : unwrappedAll kinds [c] = unwrapped kinds c :=
  List.append_nil _

@[simp] theorem labelsOfAll_singleton : labelsOfAll [c] = labels c := List.append_nil _

/-! ### What is left -/

mutual

/-- The nodes that are left are those of the other kinds, in their order. -/
theorem labelsOfAll_unwrapped (kinds : List String) : (c : Child) →
    labelsOfAll (unwrapped kinds c) = c.labels.filter (·.1 ∉ kinds)
  | text s => rfl
  | node name attributes children => by
      have hbelow := labelsOfAll_unwrappedAll kinds children
      rw [unwrapped, labels]
      split
      · rename_i hkind
        rw [List.filter_cons_of_neg (by simpa using hkind), hbelow]
      · rename_i hkind
        rw [List.filter_cons_of_pos (by simpa using hkind), labelsOfAll_singleton, labels, hbelow]

theorem labelsOfAll_unwrappedAll (kinds : List String) : (children : List Child) →
    labelsOfAll (unwrappedAll kinds children) = (labelsOfAll children).filter (·.1 ∉ kinds)
  | [] => rfl
  | c :: rest => by
      rw [unwrappedAll, labelsOfAll, labelsOfAll_append, List.filter_append,
        labelsOfAll_unwrapped kinds c, labelsOfAll_unwrappedAll kinds rest]

end

mutual

theorem leavesOfAll_unwrapped (kinds : List String) : (c : Child) →
    leavesOfAll (unwrapped kinds c) = c.leaves
  | text s => rfl
  | node name attributes children => by
      have hbelow := leavesOfAll_unwrappedAll kinds children
      rw [unwrapped, leaves]
      split
      · exact hbelow
      · rw [leavesOfAll_singleton, leaves, hbelow]

theorem leavesOfAll_unwrappedAll (kinds : List String) : (children : List Child) →
    leavesOfAll (unwrappedAll kinds children) = leavesOfAll children
  | [] => rfl
  | c :: rest => by
      rw [unwrappedAll, leavesOfAll, leavesOfAll_append, leavesOfAll_unwrapped kinds c,
        leavesOfAll_unwrappedAll kinds rest]

end

mutual

/-- Without nodes of the kinds there is nothing to unwrap. -/
theorem unwrapped_of_forall_labels : (c : Child) → (∀ label ∈ c.labels, label.1 ∉ kinds) →
    unwrapped kinds c = [c]
  | text s, _ => rfl
  | node name attributes children, h => by
      obtain ⟨hname, hbelow⟩ := List.forall_mem_cons.mp h
      rw [unwrapped, if_neg hname, unwrappedAll_of_forall_labels children hbelow]

theorem unwrappedAll_of_forall_labels : (children : List Child) →
    (∀ label ∈ labelsOfAll children, label.1 ∉ kinds) → unwrappedAll kinds children = children
  | [], _ => rfl
  | c :: rest, h => by
      obtain ⟨hc, hrest⟩ := List.forall_mem_append.mp h
      rw [unwrappedAll, unwrapped_of_forall_labels c hc, unwrappedAll_of_forall_labels rest hrest,
        List.singleton_append]

end

mutual

/-- Unwrapping further kinds in what is left is unwrapping all of the kinds at once. -/
theorem unwrappedAll_unwrapped (kinds others : List String) : (c : Child) →
    unwrappedAll others (unwrapped kinds c) = unwrapped (kinds ++ others) c
  | text s => rfl
  | node name attributes children => by
      have hbelow := unwrappedAll_unwrappedAll kinds others children
      by_cases hkind : name ∈ kinds
      -- Either the node is gone before the second time, or only its children have changed.
      · rw [unwrapped, unwrapped, if_pos hkind, if_pos (List.mem_append_left _ hkind), hbelow]
      · have hboth : name ∈ kinds ++ others ↔ name ∈ others := by simp [hkind]
        rw [unwrapped, if_neg hkind, unwrappedAll_singleton, unwrapped, unwrapped, hbelow]
        simp only [hboth]

theorem unwrappedAll_unwrappedAll (kinds others : List String) : (children : List Child) →
    unwrappedAll others (unwrappedAll kinds children) = unwrappedAll (kinds ++ others) children
  | [] => rfl
  | c :: rest => by
      rw [unwrappedAll, unwrappedAll_append, unwrappedAll, unwrappedAll_unwrapped kinds others c,
        unwrappedAll_unwrappedAll kinds others rest]

end

end Child

/-! ### The edit -/

theorem find?_unwrapping (kinds : List String) (name : String) :
    (unwrapping kinds).find? name = if name ∈ kinds then some unwrap else none := by
  have hbound : (unwrapping kinds).find? name =
      (kinds.reverse.find? (· == name)).map fun _ => unwrap :=
    Dictionary.find?_ofEntries_map id (fun _ => unwrap) name kinds
  rw [hbound]
  cases hlast : kinds.reverse.find? (· == name) with
  | none =>
      have hother : ∀ kind ∈ kinds, kind ≠ name := by simpa using hlast
      rw [if_neg fun hmem => hother name hmem rfl]
      rfl
  | some kind =>
      have hmem : kind ∈ kinds := List.mem_reverse.mp (List.mem_of_find?_eq_some hlast)
      obtain rfl : kind = name := by simpa using List.find?_some hlast
      rw [if_pos hmem]
      rfl

theorem handler_unwrapping (kinds : List String) (name : String) :
    (editing (unwrapping kinds)).handler name =
      if name ∈ kinds then unwrap else (editing (unwrapping kinds)).fallback := by
  rw [Traversal.handler]
  change ((unwrapping kinds).find? name).getD _ = _
  rw [find?_unwrapping]
  split <;> rfl

mutual

theorem child_unwrapping (kinds : List String) (siblings : Siblings) : (c : Child) →
    ∃ result, (editing (unwrapping kinds)).child siblings c = .ok result ∧
      result.toList = c.unwrapped kinds
  | .text s => by
      rw [Traversal.child]
      exact ⟨_, rfl, rfl⟩
  | .node name attributes children => by
      rw [Traversal.child, handler_unwrapping, childrenFrom_unwrapping, Child.unwrapped]
      split <;> exact ⟨_, rfl, rfl⟩

theorem childrenFrom_unwrapping (kinds : List String) (all : List Child) (index : Nat) :
    (children : List Child) → (editing (unwrapping kinds)).childrenFrom all index children =
      .ok (Child.unwrappedAll kinds children)
  | [] => by
      rw [Traversal.childrenFrom]
      rfl
  | c :: rest => by
      obtain ⟨result, hresult, htoList⟩ := child_unwrapping kinds ⟨all, index⟩ c
      rw [Traversal.childrenFrom, hresult, childrenFrom_unwrapping kinds all (index + 1) rest,
        Child.unwrappedAll, ← htoList]
      rfl

end

namespace Node

variable {kinds : List String} {root : Node}

/-- Names and attributes of the nodes of a tree, the root first. -/
def labels (root : Node) : List (String × Attributes) := (Child.ofNode root).labels

/-- A tree with the nodes of some kinds unwrapped, the root apart. -/
def unwrappedBelow (kinds : List String) (root : Node) : Node :=
  root.withChildren (Child.unwrappedAll kinds root.children)

/-- The tree that an edit of a tree of some name has when these are left of it. -/
def ofEdited (name : String) : List Child → Except Error Node
  | [.node name attributes children] => .ok ⟨name, attributes, children⟩
  | _ => .error (.malformedTree (.noSingleRoot name))

theorem edit_unwrapping (kinds : List String) (root : Node) :
    root.edit (unwrapping kinds) = ofEdited root.name ((Child.ofNode root).unwrapped kinds) := by
  obtain ⟨result, hresult, htoList⟩ := child_unwrapping kinds .root root
  rw [edit, Traversal.run, hresult, ← htoList, ofEdited.eq_def]
  rfl

theorem unwrapped_ofNode (h : root.name ∉ kinds) :
    (Child.ofNode root).unwrapped kinds = [Child.ofNode (root.unwrappedBelow kinds)] := by
  rw [Child.ofNode, Child.unwrapped, if_neg h]
  rfl

theorem edit_unwrapping_of_notMem (h : root.name ∉ kinds) :
    root.edit (unwrapping kinds) = .ok (root.unwrappedBelow kinds) := by
  rw [edit_unwrapping, unwrapped_ofNode h]
  rfl

/-- A second edit goes on from what the first has left. -/
theorem edit_unwrapping_append (h : root.name ∉ kinds) (others : List String) :
    (root.unwrappedBelow kinds).edit (unwrapping others) =
      root.edit (unwrapping (kinds ++ others)) := by
  rw [edit_unwrapping, edit_unwrapping, ← Child.unwrappedAll_unwrapped, unwrapped_ofNode h,
    Child.unwrappedAll_singleton]
  rfl

theorem labels_unwrappedBelow (h : root.name ∉ kinds) :
    (root.unwrappedBelow kinds).labels = root.labels.filter (·.1 ∉ kinds) := by
  have hlabels := Child.labelsOfAll_unwrapped kinds root
  rwa [unwrapped_ofNode h, Child.labelsOfAll_singleton] at hlabels

theorem leaves_unwrappedBelow (h : root.name ∉ kinds) :
    (root.unwrappedBelow kinds).leaves = root.leaves := by
  have hleaves := Child.leavesOfAll_unwrapped kinds root
  rwa [unwrapped_ofNode h, Child.leavesOfAll_singleton] at hleaves

theorem unwrappedBelow_of_forall_labels (h : ∀ label ∈ root.labels, label.1 ∉ kinds) :
    root.unwrappedBelow kinds = root := by
  obtain ⟨-, hbelow⟩ := List.forall_mem_cons.mp h
  rw [unwrappedBelow, Child.unwrappedAll_of_forall_labels root.children hbelow]
  rfl

/-- One tree is what another becomes when its nodes of some kinds are unwrapped. -/
structure Unwraps (kinds : List String) (root result : Node) : Prop where
  edit : root.edit (unwrapping kinds) = .ok result
  name : result.name = root.name
  attributes : result.attributes = root.attributes
  /-- No node of the kinds is left. -/
  others : ∀ label ∈ result.labels, label.1 ∉ kinds
  labels : result.labels = root.labels.filter (·.1 ∉ kinds)
  leaves : result.leaves = root.leaves
  /-- Where there is nothing to unwrap, nothing changes. -/
  unchanged : (∀ label ∈ root.labels, label.1 ∉ kinds) → result = root
  again : result.edit (unwrapping kinds) = .ok result
  /-- More kinds can be unwrapped afterwards or at once. -/
  further : ∀ more, result.edit (unwrapping more) = root.edit (unwrapping (kinds ++ more))

/-- Unwrapping the nodes of any kinds but that of the root succeeds, and keeps all other nodes and
every text leaf in their order. To do it again changes nothing, and to unwrap more kinds afterwards
is to unwrap all of them at once. -/
theorem exists_unwraps (kinds : List String) (root : Node) (hroot : root.name ∉ kinds) :
    ∃ result, Unwraps kinds root result := by
  have hlabels := labels_unwrappedBelow hroot
  have hothers : ∀ label ∈ (root.unwrappedBelow kinds).labels, label.1 ∉ kinds := by
    intro label hlabel
    rw [hlabels] at hlabel
    simpa using List.of_mem_filter hlabel
  refine ⟨root.unwrappedBelow kinds, {
    edit := edit_unwrapping_of_notMem hroot
    name := rfl
    attributes := rfl
    others := hothers
    labels := hlabels
    leaves := leaves_unwrappedBelow hroot
    unchanged := unwrappedBelow_of_forall_labels
    again := ?_
    further := edit_unwrapping_append hroot }⟩
  have hname : (root.unwrappedBelow kinds).name ∉ kinds := hroot
  rw [edit_unwrapping_of_notMem hname, unwrappedBelow_of_forall_labels hothers]

theorem exists_unwraps_nested :
    let strong (children : List Child) : Child := .node "Strong" ∅ children
    let emph (children : List Child) : Child := .node "Emph" ∅ children
    let link (children : List Child) : Child := .node "Link" ∅ children
    let root : Node :=
      ⟨"root", ∅, [.text "a", emph [strong [.text "b", link [emph [.text "c"]]], .text "d"]]⟩
    let plain : Node := ⟨"root", ∅, [.text "a", .text "b", link [.text "c"], .text "d"]⟩
    root.name ∉ ["Emph", "Strong"] ∧ Unwraps ["Emph", "Strong"] root plain := by
  intro strong emph link root plain
  have hroot : root.name ∉ ["Emph", "Strong"] := by decide
  obtain ⟨result, hresult⟩ := exists_unwraps ["Emph", "Strong"] root hroot
  have hplain : root.edit (unwrapping ["Emph", "Strong"]) = .ok plain := rfl
  obtain rfl : result = plain := Except.ok.inj (hresult.edit.symm.trans hplain)
  exact ⟨hroot, hresult⟩

end Node

end DocBridge

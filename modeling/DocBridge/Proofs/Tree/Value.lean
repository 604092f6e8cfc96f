import DocBridge.Proofs.Json.WellFormed
import DocBridge.Proofs.Tree.Faults
import DocBridge.Tree.Value

/-!
# Trees read from JSON and written as JSON

A node shares one object with its attributes, so a tree is read back from what it is written as when
no attribute hides the name or the children of its node. These are exactly the trees that reading
gives, since it takes the two keys out of the attributes.

Reading accepts an object with a name that is not blank and children that are texts or are accepted
themselves. What it accepts is written as it was, with the children it lacks as an empty list.
-/

namespace DocBridge

/-! ### Trees that can be told from their attributes -/

namespace Child

mutual

/-- At every node the name is not blank, and no attribute has the key of the name or of the
children. -/
def Legible : Child → Prop
  | text _ => True
  | node name attributes children =>
    Text.allBlank name = false ∧ attributes.find? "name" = none ∧
      attributes.find? "children" = none ∧ AllLegible children

def AllLegible : List Child → Prop
  | [] => True
  | c :: rest => Legible c ∧ AllLegible rest

end

end Child

def Node.Legible (n : Node) : Prop := (Child.ofNode n).Legible

/-! ### Values that stand for trees -/

namespace Json.Value

/-- The items that stand for children among the members of an object. There are none of them when
`children` is missing or null. -/
def childItems? (members : Dictionary Value) : Option (List Value) :=
  match members.find? "children" with
  | none => some []
  | some null => some []
  | some (array items) => some items
  | some _ => none

/-- An object whose name is a string that is not blank and whose children are missing, null or a
list in which whatever is no string stands for a tree itself. -/
inductive StandsForTree : Value → Prop
  | object {members : Dictionary Value} {name : String} {items : List Value}
      (hname : members.find? "name" = some (string name)) (hblank : Text.allBlank name = false)
      (hitems : childItems? members = some items)
      (h : ∀ item ∈ items, (∀ s, item ≠ string s) → StandsForTree item) :
      StandsForTree (object members)

mutual

/-- The value with an empty list for children that are missing or null, in an object and in every
object reached through lists of children. -/
def fillChildren : Value → Value
  | object members =>
    object (Dictionary.insert "children" (array (filledAmong members)) members)
  | v => v

def filledAmong : List (String × Value) → List Value
  | [] => []
  | (key, v) :: rest => if key = "children" then filledItems v else filledAmong rest

def filledItems : Value → List Value
  | array items => fillAll items
  | _ => []

def fillAll : List Value → List Value
  | [] => []
  | v :: rest => fillChildren v :: fillAll rest

end

variable {members : Dictionary Value} {items : List Value} {item v : Value}

theorem sizeOf_lt_of_find? {key : String} (h : members.find? key = some v) :
    sizeOf v < sizeOf members := by
  have hmem := Dictionary.mem_of_find? h
  have hentry := List.sizeOf_lt_of_mem hmem
  simp only [Prod.mk.sizeOf_spec] at hentry
  omega

theorem find?_of_mem_childItems? (h : childItems? members = some items) (hmem : item ∈ items) :
    members.find? "children" = some (array items) := by
  unfold childItems? at h
  split at h
  all_goals simp_all

/-- A property of every value holds of an object when it holds of the items of its children. -/
theorem childrenInduction {P : Value → Prop}
    (hobject : ∀ members, (∀ items, childItems? members = some items → ∀ item ∈ items, P item) →
      P (object members))
    (hother : ∀ v, (∀ members, v ≠ object members) → P v) (v : Value) : P v := by
  cases v with
  | object members =>
      apply hobject
      intro items hitems item hmem
      exact childrenInduction hobject hother item
  | _ => exact hother _ (by simp)
termination_by sizeOf v
decreasing_by
  have hlist := sizeOf_lt_of_find? (find?_of_mem_childItems? hitems hmem)
  have hinner := List.sizeOf_lt_of_mem hmem
  simp only [array.sizeOf_spec] at hlist
  simp only [object.sizeOf_spec]
  omega

theorem fillAll_eq_map (items : List Value) : fillAll items = items.map fillChildren := by
  induction items with
  | nil => rfl
  | cons v rest ih => rw [fillAll, ih, List.map_cons]

theorem filledAmong_eq (members : Dictionary Value) :
    filledAmong members = ((members.find? "children").map filledItems).getD [] := by
  induction members with
  | nil => rfl
  | cons member rest ih =>
      obtain ⟨key, v⟩ := member
      rw [filledAmong, Dictionary.find?, Dictionary.lookup_cons_ite]
      by_cases hkey : key = "children"
      · rw [if_pos hkey, if_pos hkey.symm]
        rfl
      · rw [if_neg hkey, if_neg (Ne.symm hkey), ih]
        rfl

theorem filledAmong_of_childItems? (h : childItems? members = some items) :
    filledAmong members = items.map fillChildren := by
  rw [filledAmong_eq]
  unfold childItems? at h
  split at h
  · next hnone => simp_all
  · next hnull => simp_all [filledItems]
  · next found harray =>
      obtain rfl := Option.some.inj h
      rw [harray]
      exact fillAll_eq_map found
  · simp at h

theorem WellFormed.of_mem_childItems? (h : (object members).WellFormed)
    (hitems : childItems? members = some items) (hmem : item ∈ items) : item.WellFormed := by
  have hentry := Dictionary.mem_of_find? (find?_of_mem_childItems? hitems hmem)
  have harray := membersWellFormed_iff.mp h.2 _ hentry
  exact allWellFormed_iff.mp harray item hmem

end Json.Value

/-! ### What is read -/

namespace Node

open Json.Value

variable {parent key : String} {members : Dictionary Json.Value} {items : List Json.Value}
  {children : List Child} {c : Child} {v : Json.Value} {n : Node}

/-- The child that one item is read as. -/
def childOf (parent : String) (v : Json.Value) : Except Error Child :=
  match v with
  | .string s => .ok (.text s)
  | .object _ => Child.ofNode <$> ofValue v
  | _ => .error (.malformedTree (.badChild parent v))

/-- A string is read as a text leaf, and whatever is read as a tree as its root. -/
inductive ReadsChild : Json.Value → Child → Prop
  | text (s : String) : ReadsChild (.string s) (.text s)
  | node {v : Json.Value} {n : Node} (h : ofValue v = .ok n) : ReadsChild v (Child.ofNode n)

theorem ofValue_eq_error (hother : ∀ members, v ≠ .object members) :
    ofValue v = .error (.malformedTree (.notObject v)) := by
  unfold ofValue
  split
  · exact absurd rfl (hother _)
  · rfl

theorem childOf_eq_ok_iff : childOf parent v = .ok c ↔ ReadsChild v c := by
  constructor
  · intro h
    cases v with
    | string s =>
        obtain rfl := Except.ok.inj h
        exact .text s
    | object members =>
        obtain ⟨n, hn, rfl⟩ : ∃ n, ofValue (.object members) = .ok n ∧ Child.ofNode n = c := by
          cases hread : ofValue (.object members) with
          | ok n => exact ⟨n, rfl, by simpa [childOf, hread] using h⟩
          | error e => simp [childOf, hread] at h
        exact .node hn
    | _ => simp [childOf] at h
  · intro h
    cases h with
    | text s => rfl
    | node h =>
        cases v with
        | object members => rw [childOf, h]; rfl
        | _ => simp [ofValue_eq_error] at h

theorem childrenOfItems_cons (parent : String) (v : Json.Value) (rest : List Json.Value) :
    childrenOfItems parent (v :: rest) =
      childOf parent v >>= fun child => (child :: ·) <$> childrenOfItems parent rest := by
  rw [childrenOfItems.eq_def]
  cases v <;> rfl

theorem childrenOfItems_eq_ok_iff : childrenOfItems parent items = .ok children ↔
    List.Forall₂ ReadsChild items children := by
  induction items generalizing children with
  | nil => rw [childrenOfItems, List.forall₂_nil_left_iff, Except.ok.injEq, eq_comm]
  | cons v rest ih =>
      rw [childrenOfItems_cons, bind_eq_ok_iff, List.forall₂_cons_left_iff]
      constructor
      · rintro ⟨c, hc, hrest⟩
        cases hothers : childrenOfItems parent rest with
        | ok others =>
            obtain rfl : c :: others = children := by simpa [hothers] using hrest
            exact ⟨c, others, childOf_eq_ok_iff.mp hc, ih.mp hothers, rfl⟩
        | error e => simp [hothers] at hrest
      · rintro ⟨c, others, hc, hothers, rfl⟩
        exact ⟨c, childOf_eq_ok_iff.mpr hc, by rw [ih.mpr hothers]; rfl⟩

theorem childrenAmong_eq (parent : String) (members : Dictionary Json.Value) :
    childrenAmong parent members =
      ((members.find? "children").map (childrenOf parent)).getD (.ok []) := by
  induction members with
  | nil => rfl
  | cons member rest ih =>
      obtain ⟨key, v⟩ := member
      rw [childrenAmong, Dictionary.find?, Dictionary.lookup_cons_ite]
      by_cases hkey : key = "children"
      · rw [if_pos hkey, if_pos hkey.symm]
        rfl
      · rw [if_neg hkey, if_neg (Ne.symm hkey), ih]
        rfl

theorem childrenAmong_of_childItems? (h : childItems? members = some items) :
    childrenAmong parent members = childrenOfItems parent items := by
  rw [childrenAmong_eq]
  unfold childItems? at h
  split at h
  · next hnone => simp_all [childrenOfItems]
  · next hnull => simp_all [childrenOf, childrenOfItems]
  · next found harray =>
      obtain rfl := Option.some.inj h
      rw [harray]
      rfl
  · simp at h

theorem childrenAmong_of_none (parent : String) (h : childItems? members = none) :
    ∃ fault, childrenAmong parent members = .error (.malformedTree fault) := by
  rw [childrenAmong_eq]
  unfold childItems? at h
  split at h
  · simp at h
  · simp at h
  · simp at h
  · next found hnull harray hfound =>
      rw [hfound]
      refine ⟨.childrenNotList parent found, ?_⟩
      cases found with
      | null => exact absurd rfl hnull
      | array items => exact absurd rfl (harray items)
      | _ => rfl

theorem nameAmong_eq_ok_iff {name : String} :
    nameAmong members = .ok name ↔ members.find? "name" = some (.string name) := by
  unfold nameAmong
  cases hfind : members.find? "name" with
  | none => simp
  | some v => cases v <;> simp [Json.Value.string?]

theorem named?_eq_ok_iff {name : String} :
    named? name = .ok n ↔ Text.allBlank name = false ∧ n = { name } := by
  unfold named?
  split
  · next hblank => simp [hblank]
  · next hblank => simp [hblank, eq_comm]

/-- What is read of an object with a name and children that are read. -/
theorem ofValue_object_eq_ok_iff : ofValue (.object members) = .ok n ↔
    members.find? "name" = some (.string n.name) ∧ Text.allBlank n.name = false ∧
      (∃ items, childItems? members = some items ∧
        List.Forall₂ ReadsChild items n.children) ∧
      n.attributes = attributesAmong members := by
  rw [ofValue]
  simp only [bind_eq_ok_iff, nameAmong_eq_ok_iff, named?_eq_ok_iff]
  constructor
  · rintro ⟨name, hname, _, ⟨hblank, rfl⟩, children, hchildren, hn⟩
    obtain rfl := Except.ok.inj hn
    cases hitems : childItems? members with
    | none =>
        obtain ⟨fault, hfault⟩ := childrenAmong_of_none name hitems
        rw [hfault] at hchildren
        cases hchildren
    | some items =>
        rw [childrenAmong_of_childItems? hitems, childrenOfItems_eq_ok_iff] at hchildren
        exact ⟨hname, hblank, ⟨items, rfl, hchildren⟩, rfl⟩
  · rintro ⟨hname, hblank, ⟨items, hitems, hchildren⟩, hattributes⟩
    refine ⟨n.name, hname, _, ⟨hblank, rfl⟩, n.children, ?_, ?_⟩
    · rw [childrenAmong_of_childItems? hitems, childrenOfItems_eq_ok_iff]
      exact hchildren
    · rw [← hattributes]
      rfl

/-! ### Keys -/

theorem attributes_ext {first second : Attributes} (h : ∀ key, first.find? key = second.find? key) :
    first = second := by
  obtain ⟨entries, hsorted⟩ := first
  obtain ⟨entries', hsorted'⟩ := second
  obtain rfl : entries = entries' := hsorted.ext hsorted' h
  rfl

/-- The attributes are the members without the name and the children. -/
theorem find?_attributesAmong (members : Dictionary Json.Value) (key : String) :
    (attributesAmong members).find? key =
      if key = "name" ∨ key = "children" then none else members.reverse.lookup key := by
  rw [attributesAmong, Attributes.ofEntries, Attributes.find?, Dictionary.find?_ofEntries,
    ← List.filter_reverse, Dictionary.lookup_filter_ne]

/-- The members of the object that a node is written as. -/
def writtenMembers (n : Node) : Dictionary Json.Value :=
  Dictionary.ofEntries
    ([("name", .string n.name), ("children", .array (Child.toValues n.children))] ++
      n.attributes.entries)

theorem sorted_writtenMembers (n : Node) : Dictionary.Sorted n.writtenMembers :=
  Dictionary.sorted_ofEntries _

theorem toValue_eq (n : Node) : n.toValue = .object n.writtenMembers := by
  rw [toValue, Child.ofNode, Child.toValue]
  rfl

/-- An attribute is found before the name and the children. -/
theorem find?_writtenMembers (n : Node) (key : String) : n.writtenMembers.find? key =
    (n.attributes.find? key).or (if key = "children" then some (.array (Child.toValues n.children))
      else if key = "name" then some (.string n.name) else none) := by
  rw [writtenMembers, Dictionary.find?_ofEntries, List.reverse_append, List.lookup_append,
    n.attributes.sorted.lookup_reverse, Attributes.find?, List.reverse_cons, List.reverse_singleton,
    List.singleton_append, Dictionary.lookup_cons_ite, Dictionary.lookup_cons_ite]
  rfl

/-! ### Reading what was written -/

theorem allLegible_iff : Child.AllLegible children ↔ ∀ c ∈ children, c.Legible := by
  induction children with
  | nil => simp [Child.AllLegible]
  | cons c rest ih => rw [Child.AllLegible, ih, List.forall_mem_cons]

theorem Legible.attributesAmong_eq (h : n.Legible) :
    attributesAmong n.writtenMembers = n.attributes := by
  obtain ⟨-, hname, hchildren, -⟩ := h
  apply attributes_ext
  intro key
  rw [find?_attributesAmong, n.sorted_writtenMembers.lookup_reverse, find?_writtenMembers]
  split
  · next hkey =>
      rcases hkey with rfl | rfl
      · exact hname.symm
      · exact hchildren.symm
  · next hkey =>
      rw [not_or] at hkey
      rw [if_neg hkey.1, if_neg hkey.2, Option.or_none]

theorem Legible.ofValue_toValue_of_children (h : n.Legible)
    (hread : List.Forall₂ ReadsChild (Child.toValues n.children) n.children) :
    ofValue n.toValue = .ok n := by
  have hattributes := h.attributesAmong_eq
  obtain ⟨hblank, hname, hchildren, -⟩ := h
  have hfindName : n.writtenMembers.find? "name" = some (.string n.name) := by
    rw [find?_writtenMembers]
    exact congrArg (Option.or · _) hname
  have hfindChildren : n.writtenMembers.find? "children" =
      some (.array (Child.toValues n.children)) := by
    rw [find?_writtenMembers]
    exact congrArg (Option.or · _) hchildren
  have hitems : childItems? n.writtenMembers = some (Child.toValues n.children) := by
    rw [childItems?, hfindChildren]
  rw [toValue_eq, ofValue_object_eq_ok_iff]
  exact ⟨hfindName, hblank, ⟨_, hitems, hread⟩, hattributes.symm⟩

mutual

theorem readsChild_toValue : ∀ c : Child, c.Legible → ReadsChild c.toValue c
  | .text s, _ => by
      rw [Child.toValue]
      exact .text s
  | .node name attributes children, h => by
      have hchildren := readsChild_toValues children h.2.2.2
      exact .node
        (Legible.ofValue_toValue_of_children (n := ⟨name, attributes, children⟩) h hchildren)

theorem readsChild_toValues : ∀ children : List Child, Child.AllLegible children →
    List.Forall₂ ReadsChild (Child.toValues children) children
  | [], _ => by
      rw [Child.toValues]
      exact .nil
  | c :: rest, h => by
      rw [Child.toValues]
      exact .cons (readsChild_toValue c h.1) (readsChild_toValues rest h.2)

end

/-- What is read keeps the name and the children out of its attributes. -/
theorem legible_of_ofValue (h : ofValue v = .ok n) : n.Legible := by
  induction v using childrenInduction generalizing n with
  | hother v hother => rw [ofValue_eq_error hother] at h; cases h
  | hobject members ih =>
      obtain ⟨hname, hblank, ⟨items, hitems, hchildren⟩, hattributes⟩ :=
        ofValue_object_eq_ok_iff.mp h
      refine ⟨hblank, ?_, ?_, allLegible_iff.mpr ?_⟩
      · rw [hattributes, find?_attributesAmong, if_pos (.inl rfl)]
      · rw [hattributes, find?_attributesAmong, if_pos (.inr rfl)]
      · intro c hc
        obtain ⟨item, hitem, hreads⟩ := Dictionary.exists_mem_of_forall₂ hchildren.flip hc
        cases hreads with
        | text s => trivial
        | node hn => exact ih items hitems item hitem hn

/-- A tree is read back from its JSON exactly when it is legible, and no other tree is ever read. -/
theorem ofValue_toValue_iff_legible (n : Node) :
    (ofValue n.toValue = .ok n ↔ n.Legible) ∧ ∀ v, ofValue v = .ok n → n.Legible := by
  refine ⟨⟨legible_of_ofValue, ?_⟩, fun v => legible_of_ofValue⟩
  intro h
  exact h.ofValue_toValue_of_children (readsChild_toValues n.children h.2.2.2)

theorem ofValue_toValue_iff_legible_hidden :
    let n : Node := ⟨"Note", Attributes.empty.insert "m" .null, [.text "a", .node "Para" ∅ []]⟩
    let hidden : Node := ⟨"Note", Attributes.empty.insert "name" (.string "a"), []⟩
    n.Legible ∧ ofValue n.toValue = .ok n ∧ ofValue hidden.toValue ≠ .ok hidden := by
  intro n hidden
  have hn : n.Legible := by
    refine ⟨by decide, rfl, rfl, trivial, ⟨by decide, rfl, rfl, trivial⟩, trivial⟩
  refine ⟨hn, (ofValue_toValue_iff_legible n).1.mpr hn, ?_⟩
  rw [ne_eq, (ofValue_toValue_iff_legible hidden).1]
  intro hlegible
  have hname : hidden.attributes.find? "name" = some (.string "a") := rfl
  have hnone : hidden.attributes.find? "name" = none := hlegible.2.1
  rw [hname] at hnone
  cases hnone

/-! ### Values that are accepted -/

theorem yields_childrenOfItems
    (h : ∀ item ∈ items, Yields (fun _ => True) (ofValue item)) :
    Yields (fun _ => True) (childrenOfItems parent items) := by
  induction items with
  | nil =>
      rw [childrenOfItems]
      trivial
  | cons v rest ih =>
      rw [List.forall_mem_cons] at h
      rw [childrenOfItems_cons]
      have hfirst : Yields (fun _ => True) (childOf parent v) := by
        cases v with
        | string s => trivial
        | object members => exact h.1.map _ fun _ _ => trivial
        | _ => exact ⟨_, rfl⟩
      exact hfirst.bind fun _ _ => (ih h.2).map _ fun _ _ => trivial

/-- Reading fails with a tree fault only. -/
theorem yields_ofValue (v : Json.Value) : Yields (fun _ => True) (ofValue v) := by
  induction v using childrenInduction with
  | hother v hother =>
      rw [ofValue_eq_error hother]
      exact ⟨_, rfl⟩
  | hobject members ih =>
      rw [ofValue]
      have hname : Yields (fun _ => True) (nameAmong members) := by
        unfold nameAmong
        split
        · trivial
        · exact ⟨_, rfl⟩
      refine hname.bind fun name _ => ?_
      have hnode : Yields (fun _ => True) (named? name) := by
        unfold named?
        split
        · exact ⟨_, rfl⟩
        · trivial
      refine hnode.bind fun node _ => ?_
      have hchildren : Yields (fun _ => True) (childrenAmong node.name members) := by
        cases hitems : childItems? members with
        | none =>
            obtain ⟨fault, hfault⟩ := childrenAmong_of_none node.name hitems
            rw [hfault]
            exact ⟨fault, rfl⟩
        | some items =>
            rw [childrenAmong_of_childItems? hitems]
            exact yields_childrenOfItems (ih items hitems)
      exact hchildren.bind fun _ _ => trivial

theorem standsForTree_of_ofValue (h : ofValue v = .ok n) : v.StandsForTree := by
  induction v using childrenInduction generalizing n with
  | hother v hother => rw [ofValue_eq_error hother] at h; cases h
  | hobject members ih =>
      obtain ⟨hname, hblank, ⟨items, hitems, hchildren⟩, -⟩ := ofValue_object_eq_ok_iff.mp h
      refine .object hname hblank hitems ?_
      intro item hitem hstring
      obtain ⟨c, -, hreads⟩ := Dictionary.exists_mem_of_forall₂ hchildren hitem
      cases hreads with
      | text s => exact absurd rfl (hstring s)
      | node hn => exact ih items hitems item hitem hn

theorem exists_forall₂_readsChild (h : ∀ item ∈ items, ∃ c, ReadsChild item c) :
    ∃ children, List.Forall₂ ReadsChild items children := by
  induction items with
  | nil => exact ⟨[], .nil⟩
  | cons v rest ih =>
      rw [List.forall_mem_cons] at h
      obtain ⟨c, hc⟩ := h.1
      obtain ⟨others, hothers⟩ := ih h.2
      exact ⟨c :: others, .cons hc hothers⟩

theorem exists_ofValue_of_standsForTree (h : v.StandsForTree) : ∃ n, ofValue v = .ok n := by
  induction h with
  | @object members name items hname hblank hitems _ ih =>
      have hread : ∀ item ∈ items, ∃ c, ReadsChild item c := by
        intro item hitem
        by_cases hstring : ∃ s, item = .string s
        · obtain ⟨s, rfl⟩ := hstring
          exact ⟨_, .text s⟩
        · rw [not_exists] at hstring
          obtain ⟨n, hn⟩ := ih item hitem hstring
          exact ⟨_, .node hn⟩
      obtain ⟨children, hchildren⟩ := exists_forall₂_readsChild hread
      exact ⟨⟨name, attributesAmong members, children⟩,
        ofValue_object_eq_ok_iff.mpr ⟨hname, hblank, ⟨items, hitems, hchildren⟩, rfl⟩⟩

theorem toValues_of_readsChild (hchildren : List.Forall₂ ReadsChild items children)
    (h : ∀ item ∈ items, ∀ c, ReadsChild item c → c.toValue = item.fillChildren) :
    Child.toValues children = items.map fillChildren := by
  induction hchildren with
  | nil => rfl
  | cons hc _ ih =>
      rw [List.forall_mem_cons] at h
      rw [Child.toValues, List.map_cons, h.1 _ hc, ih h.2]

/-- What is read is written as it was, with the children that it lacked. -/
theorem toValue_of_ofValue (hv : v.WellFormed) (h : ofValue v = .ok n) :
    n.toValue = v.fillChildren := by
  induction v using childrenInduction generalizing n with
  | hother v hother => rw [ofValue_eq_error hother] at h; cases h
  | hobject members ih =>
      obtain ⟨hname, -, ⟨items, hitems, hchildren⟩, hattributes⟩ := ofValue_object_eq_ok_iff.mp h
      have hwritten : Child.toValues n.children = items.map fillChildren := by
        apply toValues_of_readsChild hchildren
        intro item hitem c hc
        cases hc with
        | text s => rfl
        | node hn => exact ih items hitems item hitem (hv.of_mem_childItems? hitems hitem) hn
      have hsorted : Dictionary.Sorted members := hv.1
      rw [toValue_eq, fillChildren, filledAmong_of_childItems? hitems]
      congr 1
      apply n.sorted_writtenMembers.ext (Dictionary.sorted_insert hsorted _ _)
      intro key
      rw [find?_writtenMembers, hattributes, find?_attributesAmong, hsorted.lookup_reverse,
        hwritten]
      by_cases hkey : key = "children"
      · rw [hkey, Dictionary.find?_insert_self]
        rfl
      · rw [Dictionary.find?_insert_of_ne hkey, if_neg hkey]
        by_cases hself : key = "name"
        · rw [hself, hname]
          rfl
        · rw [if_neg (not_or.mpr ⟨hself, hkey⟩), if_neg hself, Option.or_none]

/-- A value is read as a tree exactly when it stands for one, and refused with a tree fault
otherwise. What is read is written as the value again, with an empty list for children that are
missing or null in any object that stands for a node. -/
theorem ofValue_outcomes (v : Json.Value) :
    ((∃ n, ofValue v = .ok n) ↔ v.StandsForTree) ∧
    (∀ e, ofValue v = .error e → ∃ fault, e = .malformedTree fault) ∧
    (v.WellFormed → ∀ n, ofValue v = .ok n → n.toValue = v.fillChildren) := by
  refine ⟨⟨?_, exists_ofValue_of_standsForTree⟩, ?_, fun hv n => toValue_of_ofValue hv⟩
  · rintro ⟨n, hn⟩
    exact standsForTree_of_ofValue hn
  · intro e he
    have hyields := yields_ofValue v
    rw [he] at hyields
    exact hyields

theorem ofValue_outcomes_null :
    let item := Json.Value.ofMembers [("name", .string "Item"), ("children", .null)]
    let v := Json.Value.ofMembers
      [("name", .string "List"), ("tight", .boolean true), ("children", .array [.string "a", item])]
    v.WellFormed ∧ v.StandsForTree ∧ ∃ n, ofValue v = .ok n ∧
      n.toValue = Json.Value.ofMembers [("name", .string "List"), ("tight", .boolean true),
        ("children", .array [.string "a",
          .ofMembers [("name", .string "Item"), ("children", .array [])]])] := by
  intro item v
  obtain ⟨hstands, -, hwritten⟩ := ofValue_outcomes v
  have hitem : item.WellFormed := by
    apply wellFormed_ofMembers
    simp [WellFormed]
  have hv : v.WellFormed := by
    apply wellFormed_ofMembers
    simp [WellFormed, AllWellFormed, hitem]
  obtain ⟨n, hn⟩ : ∃ n, ofValue v = .ok n := by
    simp only [item, v]
    exact ⟨_, rfl⟩
  refine ⟨hv, hstands.mp ⟨n, hn⟩, n, hn, (hwritten hv n hn).trans ?_⟩
  simp only [item, v]
  rfl

end Node

end DocBridge

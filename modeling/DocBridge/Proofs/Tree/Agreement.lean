import DocBridge.Proofs.Tree.Equality
import DocBridge.Tree.Diagram
import DocBridge.Tree.Kind

/-!
# Attributes that outputs show

A tree may carry any attributes, and of these the outputs show a few at nodes of a few kinds. Two
trees agree when they are alike with regard to these. Equal trees agree, because metadata is not
among what is shown.

Two runs of one traversal on trees that are alike take the same course as long as no handler tells
the nodes or their siblings apart. The diagram shows names and texts only, so it does not even look
at the attributes on which trees agree.
-/

namespace DocBridge

namespace Json.Value

variable {v w : Value}

theorem string?_eq_of_same (h : v.same w = true) : v.string? = w.string? := by
  cases v with
  | string s => rw [same_string_iff.mp h]
  | _ => cases w <;> simp_all [same, string?]

theorem natural?_eq_of_same (h : v.same w = true) : v.natural? = w.natural? := by
  cases v with
  | number m =>
      cases w with
      | number n =>
          cases m <;> cases n <;> simp_all [same, Number.same, natural?, Number.natural?]
      | _ => simp [same] at h
  | _ => cases w <;> simp_all [same, natural?]

end Json.Value

theorem bind_eq_of_rel {α β : Type} {r : α → α → Prop} {x y : Option α} {f : α → Option β}
    (h : Option.Rel r x y) (hf : ∀ v w, r v w → f v = f w) : x.bind f = y.bind f := by
  cases h with
  | some hvw => exact hf _ _ hvw
  | none => rfl

theorem rel_getElem?_of_forall₂ {α β : Type} {r : α → β → Prop} {l : List α} {m : List β}
    (h : List.Forall₂ r l m) (i : Nat) : Option.Rel r l[i]? m[i]? := by
  induction h generalizing i with
  | nil => exact .none
  | cons hab _ ih =>
      cases i with
      | zero => exact .some hab
      | succ i => exact ih i

/-- The attributes that outputs show of nodes of a kind. -/
def Kind.shown : Kind → List String
  | .header => ["level"]
  | .codeBlock => ["lang"]
  | .orderedList => ["start", "delimiter"]
  | .link | .image => ["url", "title"]
  | _ => []

theorem Kind.ne_metadata_of_mem_shown {kind : Kind} {key : String} (h : key ∈ kind.shown) :
    key ≠ "m" := by
  rintro rfl
  cases kind <;> simp [shown] at h

/-- Attributes of a node with a name in which all that is shown is either absent on both sides or
has equal JSON values. -/
def Attributes.AgreeAt (name : String) (left right : Attributes) : Prop :=
  ∀ kind : Kind, kind.name = name → ∀ key ∈ kind.shown,
    Option.Rel (fun v w => v.same w = true) (left.find? key) (right.find? key)

theorem Attributes.agreeAt_of_same {left right : Attributes} (h : left.same right = true)
    (name : String) : AgreeAt name left right := by
  intro kind _ key hkey
  have hempty (value : Json.Value) : ¬isEmptyMetadata key value = true := by
    rw [isEmptyMetadata_iff]
    exact fun hmetadata => kind.ne_metadata_of_mem_shown hkey hmetadata.1
  obtain ⟨hleft, hright⟩ := same_iff_find?.mp h
  cases hvalue : left.find? key with
  | some value =>
      obtain ⟨other, hother, hsame⟩ | ⟨-, hmetadata⟩ := hleft key value hvalue
      · rw [hother]
        exact .some hsame
      · exact absurd hmetadata (hempty value)
  | none =>
      cases hother : right.find? key with
      | none => exact .none
      | some other => exact absurd (hright key other hother hvalue) (hempty other)

/-- Two trees of one shape with the same names and texts that agree on what is shown. -/
def Node.Agree (a b : Node) : Prop := Child.Alike Attributes.AgreeAt a b

namespace Node

variable {a b : Node} {kind : Kind} {key : String}

theorem agree_of_same (h : a.same b = true) : a.Agree b :=
  ((Child.same_iff_alike a b).mp h).mono fun name _ _ hattributes =>
    Attributes.agreeAt_of_same hattributes name

theorem Agree.name_eq (h : a.Agree b) : a.name = b.name := (Child.alike_node_iff.mp h).1

theorem Agree.forall₂_children (h : a.Agree b) :
    List.Forall₂ (Child.Alike Attributes.AgreeAt) a.children b.children :=
  (Child.alike_node_iff.mp h).2.2

theorem Agree.attribute?_rel (h : a.Agree b) (hname : a.name = kind.name)
    (hkey : key ∈ kind.shown) :
    Option.Rel (fun v w => v.same w = true) (a.attribute? key) (b.attribute? key) :=
  (Child.alike_node_iff.mp h).2.1 kind hname.symm key hkey

theorem Agree.string?_eq (h : a.Agree b) (hname : a.name = kind.name) (hkey : key ∈ kind.shown) :
    a.string? key = b.string? key :=
  bind_eq_of_rel (h.attribute?_rel hname hkey) fun _ _ => Json.Value.string?_eq_of_same

theorem Agree.natural?_eq (h : a.Agree b) (hname : a.name = kind.name) (hkey : key ∈ kind.shown) :
    a.natural? key = b.natural? key :=
  bind_eq_of_rel (h.attribute?_rel hname hkey) fun _ _ => Json.Value.natural?_eq_of_same

theorem Agree.textContent_eq (h : a.Agree b) : a.textContent = b.textContent :=
  Child.Alike.textContent_eq h

end Node

/-! ### Two runs of a traversal -/

/-- The same place among children that are alike. -/
def Siblings.Alike (R : String → Attributes → Attributes → Prop) (left right : Siblings) : Prop :=
  left.index = right.index ∧ List.Forall₂ (Child.Alike R) left.children right.children

theorem Siblings.alike_root (R : String → Attributes → Attributes → Prop) :
    Siblings.Alike R .root .root := ⟨rfl, .nil⟩

theorem Siblings.Alike.next?_rel {R : String → Attributes → Attributes → Prop}
    {left right : Siblings} (h : Siblings.Alike R left right) :
    Option.Rel (Child.Alike R) left.next? right.next? := by
  rw [next?, next?, h.1]
  exact rel_getElem?_of_forall₂ h.2 _

namespace Traversal

variable {m : Type → Type} [Monad m] {α : Type} {t : Traversal m α}
  {R : String → Attributes → Attributes → Prop} {c d : Child} {siblings siblings' : Siblings}

theorem childrenFrom_eq_of_alike {all all' children children' : List Child}
    (hall : List.Forall₂ (Child.Alike R) all all') (index : Nat)
    (h : List.Forall₂ (fun c d => ∀ siblings siblings', Siblings.Alike R siblings siblings' →
      t.child siblings c = t.child siblings' d) children children') :
    t.childrenFrom all index children = t.childrenFrom all' index children' := by
  induction h generalizing index with
  | nil => rfl
  | cons hcd _ ih =>
      rw [childrenFrom, childrenFrom, hcd ⟨all, index⟩ ⟨all', index⟩ ⟨rfl, hall⟩, ih (index + 1)]

/-- A traversal whose handlers do not tell apart nodes that are alike does not tell apart trees that
are alike. -/
theorem child_eq_of_alike
    (hhandler : ∀ (a b : Node) (siblings siblings' : Siblings) (children : m (List α)),
      Child.Alike R a b → Siblings.Alike R siblings siblings' →
        t.handler a.name a siblings children = t.handler b.name b siblings' children)
    (h : Child.Alike R c d) (hsiblings : Siblings.Alike R siblings siblings') :
    t.child siblings c = t.child siblings' d := by
  induction h using Child.Alike.induction generalizing siblings siblings' with
  | text s => rw [child, child]
  | @node name attributes attributes' children children' hattributes hchildren ih =>
      have hinner : t.childrenFrom children 0 children = t.childrenFrom children' 0 children' := by
        refine childrenFrom_eq_of_alike hchildren 0 (ih.imp ?_)
        rintro c d ⟨-, hcd⟩ siblings siblings' hsiblings
        exact hcd hsiblings
      rw [child, child, hinner]
      exact hhandler ⟨name, attributes, children⟩ ⟨name, attributes', children'⟩ siblings siblings'
        _ (.node hattributes hchildren) hsiblings

end Traversal

/-- The diagram shows no attributes. -/
theorem Node.diagram_eq_of_alike {R : String → Attributes → Attributes → Prop} {a b : Node}
    (h : Child.Alike R a b) (limit : Nat) : a.diagram limit = b.diagram limit := by
  have hrun : (Diagram.traversal limit).run a = (Diagram.traversal limit).run b := by
    apply Traversal.child_eq_of_alike _ h (Siblings.alike_root R)
    intro a b siblings siblings' children hab hsiblings
    have hname : a.name = b.name := (Child.alike_node_iff.mp hab).1
    simp only [Traversal.handler, Diagram.traversal, Dictionary.find?, List.lookup_nil,
      Option.getD_none, hname]
  rw [diagram, diagram, hrun]

end DocBridge

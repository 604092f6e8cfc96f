import DocBridge.Tree.Basic
import Mathlib.Data.List.Forall2

/-!
# Trees of one shape

Two trees are alike when they have the same shape, the same names and the same text leaves, and the
attributes of two nodes at one place are related. What the relation is is left open, and it may
depend on the name of the nodes. Equality of trees is of this kind, and so is what two trees have in
common that no output tells apart.
-/

namespace DocBridge

theorem forall₂_trans {α β γ : Type} {R : α → β → Prop} {S : β → γ → Prop} {T : α → γ → Prop}
    (h : ∀ a b c, R a b → S b c → T a c) {l : List α} {m : List β} {n : List γ}
    (hlm : List.Forall₂ R l m) (hmn : List.Forall₂ S m n) : List.Forall₂ T l n := by
  induction hlm generalizing n with
  | nil =>
      cases hmn
      exact .nil
  | cons hab _ ih =>
      cases hmn with
      | cons hbc hmn => exact .cons (h _ _ _ hab hbc) (ih hmn)

namespace Child

variable {R S : String → Attributes → Attributes → Prop} {c d : Child} {name name' : String}
  {attributes attributes' : Attributes} {children children' : List Child}

/-- Two trees of one shape with the same names and texts, and with related attributes wherever they
have a node. -/
inductive Alike (R : String → Attributes → Attributes → Prop) : Child → Child → Prop
  | text (s : String) : Alike R (text s) (text s)
  | node {name : String} {attributes attributes' : Attributes} {children children' : List Child}
      (hattributes : R name attributes attributes')
      (hchildren : List.Forall₂ (Alike R) children children') :
      Alike R (node name attributes children) (node name attributes' children')

/-- Induction on two trees that are alike: what is shown of two nodes may use that it holds of their
children side by side. -/
@[elab_as_elim]
theorem Alike.induction {motive : (c d : Child) → Alike R c d → Prop}
    (text : ∀ s, motive (.text s) (.text s) (.text s))
    (node : ∀ {name : String} {attributes attributes' : Attributes}
      {children children' : List Child} (hattributes : R name attributes attributes')
      (hchildren : List.Forall₂ (Alike R) children children'),
      List.Forall₂ (fun c d => ∃ h, motive c d h) children children' →
        motive (.node name attributes children) (.node name attributes' children')
          (.node hattributes hchildren))
    (h : Alike R c d) : motive c d h :=
  @Alike.rec R motive (fun l m _ => List.Forall₂ (fun c d => ∃ h, motive c d h) l m) text
    (fun hattributes hchildren ih => node hattributes hchildren ih) .nil
    (fun hcd _ ih hrest => .cons ⟨hcd, ih⟩ hrest) c d h

@[simp] theorem alike_text_iff {s t : String} : Alike R (text s) (text t) ↔ s = t := by
  constructor
  · intro h
    cases h
    rfl
  · rintro rfl
    exact .text s

@[simp] theorem not_alike_text_node {s : String} :
    ¬Alike R (text s) (node name attributes children) := nofun

@[simp] theorem not_alike_node_text {s : String} :
    ¬Alike R (node name attributes children) (text s) := nofun

theorem alike_node_iff :
    Alike R (node name attributes children) (node name' attributes' children') ↔
      name = name' ∧ R name attributes attributes' ∧ List.Forall₂ (Alike R) children children' := by
  constructor
  · intro h
    cases h with
    | node hattributes hchildren => exact ⟨rfl, hattributes, hchildren⟩
  · rintro ⟨rfl, hattributes, hchildren⟩
    exact .node hattributes hchildren

theorem Alike.mono (h : Alike R c d) (hRS : ∀ name l r, R name l r → S name l r) : Alike S c d := by
  induction h using Alike.induction with
  | text s => exact .text s
  | node hattributes hchildren ih =>
      refine .node (hRS _ _ _ hattributes) (ih.imp ?_)
      rintro c d ⟨-, h⟩
      exact h

/-! ### Equivalences -/

theorem Alike.refl (hR : ∀ name attributes, R name attributes attributes) (c : Child) :
    Alike R c c := by
  match c with
  | .text s => exact .text s
  | .node name attributes children =>
      exact .node (hR name attributes)
        (List.forall₂_same.mpr fun d _ => Alike.refl hR d)
termination_by c

theorem Alike.symm (hR : ∀ name l r, R name l r → R name r l) (h : Alike R c d) : Alike R d c := by
  induction h using Alike.induction with
  | text s => exact .text s
  | node hattributes hchildren ih =>
      refine .node (hR _ _ _ hattributes) (List.Forall₂.flip (ih.imp ?_))
      rintro c d ⟨-, h⟩
      exact h

theorem Alike.trans (hR : ∀ name l m r, R name l m → R name m r → R name l r) {e : Child}
    (h : Alike R c d) (h' : Alike R d e) : Alike R c e := by
  induction h using Alike.induction generalizing e with
  | text s => exact h'
  | node hattributes hchildren ih =>
      cases h' with
      | node hattributes' hchildren' =>
          refine .node (hR _ _ _ _ hattributes hattributes') (forall₂_trans ?_ ih hchildren')
          rintro c d e ⟨-, h⟩ h'
          exact h h'

theorem equivalence_alike (hR : ∀ name, Equivalence (R name)) : Equivalence (Alike R) where
  refl := Alike.refl fun name => (hR name).refl
  symm := Alike.symm fun name _ _ => (hR name).symm
  trans := Alike.trans (R := R) fun name _ _ _ => (hR name).trans

/-! ### Changed attributes -/

mutual

/-- The tree with the attributes of every node changed. -/
def mapAttributes (f : Attributes → Attributes) : Child → Child
  | text s => text s
  | node name attributes children => node name (f attributes) (mapAllAttributes f children)

def mapAllAttributes (f : Attributes → Attributes) : List Child → List Child
  | [] => []
  | c :: rest => mapAttributes f c :: mapAllAttributes f rest

end

mutual

theorem alike_mapAttributes_iff (f : Attributes → Attributes) : (c d : Child) →
    (Alike R (c.mapAttributes f) (d.mapAttributes f) ↔
      Alike (fun name left right => R name (f left) (f right)) c d)
  | .text s, .text t => by simp [mapAttributes]
  | .text s, .node name attributes children => by simp [mapAttributes]
  | .node name attributes children, .text t => by simp [mapAttributes]
  | .node name attributes children, .node name' attributes' children' => by
      rw [mapAttributes, mapAttributes, alike_node_iff, alike_node_iff,
        forall₂_mapAllAttributes_iff f children children']

theorem forall₂_mapAllAttributes_iff (f : Attributes → Attributes) :
    (children children' : List Child) →
      (List.Forall₂ (Alike R) (mapAllAttributes f children) (mapAllAttributes f children') ↔
        List.Forall₂ (Alike fun name left right => R name (f left) (f right)) children children')
  | [], children' => by cases children' <;> simp [mapAllAttributes]
  | c :: rest, [] => by simp [mapAllAttributes]
  | c :: rest, d :: rest' => by
      rw [mapAllAttributes, mapAllAttributes, List.forall₂_cons, List.forall₂_cons,
        alike_mapAttributes_iff f c d, forall₂_mapAllAttributes_iff f rest rest']

end

/-! ### What trees that are alike have in common -/

theorem textOfAll_eq_of_forall₂
    (h : List.Forall₂ (fun c d => textContent c = textContent d) children children') :
    textOfAll children = textOfAll children' := by
  induction h with
  | nil => rfl
  | cons hcd _ ih => rw [textOfAll, textOfAll, hcd, ih]

theorem Alike.textContent_eq (h : Alike R c d) : c.textContent = d.textContent := by
  induction h using Alike.induction with
  | text s => rfl
  | node hattributes hchildren ih =>
      rw [textContent, textContent]
      refine textOfAll_eq_of_forall₂ (ih.imp ?_)
      rintro c d ⟨-, h⟩
      exact h

end Child

end DocBridge

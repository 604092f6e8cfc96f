import DocBridge.Proofs.Json.Equality
import DocBridge.Proofs.Tree.Alike
import DocBridge.Proofs.Tree.Sameness

/-!
# Equality of trees is an equivalence

Comparing two trees goes over the attributes of each node twice, once from either side, and lets
empty metadata pass where the other side has none. This comes to the same as dropping empty metadata
everywhere and comparing what is left key by key, so the two sides play the same part and equality
of trees is an equivalence because equality of JSON values is one.
-/

namespace DocBridge

namespace Attributes

variable {left right : Attributes}

def erase (attributes : Attributes) (key : String) : Attributes :=
  ⟨attributes.entries.filter (·.1 != key), attributes.sorted.filter _⟩

/-- The attributes without `m` if that is an empty object. -/
def withoutEmptyMetadata (attributes : Attributes) : Attributes :=
  match attributes.find? "m" with
  | some (.object []) => attributes.erase "m"
  | _ => attributes

/-- The same keys with equal JSON values. -/
def Equal (left right : Attributes) : Prop :=
  List.Forall₂ (fun x y => x.1 = y.1 ∧ x.2.same y.2 = true) left.entries right.entries

theorem entries_withoutEmptyMetadata (attributes : Attributes) :
    attributes.withoutEmptyMetadata.entries = attributes.essential := by
  unfold withoutEmptyMetadata essential
  split
  · next hempty =>
    apply List.filter_congr
    rintro ⟨key, value⟩ hmem
    by_cases hkey : key = "m"
    · subst hkey
      have hvalue : some value = some (.object []) :=
        (find?_eq_some_iff.mpr hmem).symm.trans hempty
      simp [isEmptyMetadata_iff.mpr ⟨rfl, Option.some.inj hvalue⟩]
    · have hbeq : (key == "m") = false := beq_eq_false_iff_ne.mpr hkey
      simp only [isEmptyMetadata, bne, hbeq, Bool.false_and]
  · next hother =>
    rw [eq_comm, List.filter_eq_self]
    rintro ⟨key, value⟩ hmem
    rw [Bool.not_eq_true', Bool.eq_false_iff]
    intro hempty
    obtain ⟨rfl, rfl⟩ := isEmptyMetadata_iff.mp hempty
    exact hother (find?_eq_some_iff.mpr hmem)

theorem same_iff_equal : left.same right = true ↔
    left.withoutEmptyMetadata.Equal right.withoutEmptyMetadata := by
  rw [Equal, entries_withoutEmptyMetadata, entries_withoutEmptyMetadata, same_iff_essential]

theorem equivalence_same : Equivalence fun left right : Attributes => left.same right = true where
  refl left := by
    rw [same_iff_essential, List.forall₂_same]
    exact fun entry _ => ⟨rfl, Json.Value.equivalence_same.refl entry.2⟩
  symm h := by
    rw [same_iff_essential] at h ⊢
    exact List.Forall₂.flip (h.imp fun _ _ hentry =>
      ⟨hentry.1.symm, Json.Value.equivalence_same.symm hentry.2⟩)
  trans h h' := by
    rw [same_iff_essential] at h h' ⊢
    exact forall₂_trans (fun _ _ _ hentry hentry' => ⟨hentry.1.trans hentry'.1,
      Json.Value.equivalence_same.trans hentry.2 hentry'.2⟩) h h'

end Attributes

namespace Child

mutual

/-- Equal trees are trees of one shape with the same attributes everywhere. -/
theorem same_iff_alike : (c d : Child) →
    (c.same d = true ↔ Alike (fun _ left right => left.same right = true) c d)
  | .text s, .text t => by simp [same]
  | .text s, .node name attributes children => by simp [same]
  | .node name attributes children, .text t => by simp [same]
  | .node name attributes children, .node name' attributes' children' => by
      rw [same, Bool.and_eq_true, Bool.and_eq_true, beq_iff_eq, and_assoc, alike_node_iff,
        allSame_iff_forall₂_alike children children', and_comm (b := attributes.same _ = true)]

theorem allSame_iff_forall₂_alike : (children children' : List Child) →
    (allSame children children' = true ↔
      List.Forall₂ (Alike fun _ left right => left.same right = true) children children')
  | [], children' => by cases children' <;> simp [allSame]
  | c :: rest, [] => by simp [allSame]
  | c :: rest, d :: rest' => by
      rw [allSame, Bool.and_eq_true, List.forall₂_cons, same_iff_alike c d,
        allSame_iff_forall₂_alike rest rest']

end

/-- The tree without the attribute `m` wherever that is an empty object. -/
def withoutEmptyMetadata : Child → Child := mapAttributes Attributes.withoutEmptyMetadata

end Child

namespace Node

/-- Two trees are equal exactly when they are the same after empty metadata has been dropped from
every node of both, attribute values being compared as JSON values. So equality of trees is an
equivalence. -/
theorem same_iff_alike_withoutEmptyMetadata :
    (∀ a b : Node, a.same b = true ↔ Child.Alike (fun _ => Attributes.Equal)
      (Child.ofNode a).withoutEmptyMetadata (Child.ofNode b).withoutEmptyMetadata) ∧
    Equivalence fun a b : Node => a.same b = true := by
  constructor
  · intro a b
    rw [Child.withoutEmptyMetadata, Child.alike_mapAttributes_iff, same, Child.same_iff_alike]
    simp only [Attributes.same_iff_equal]
  · simp only [same, Child.same_iff_alike]
    exact (Child.equivalence_alike fun _ => Attributes.equivalence_same).comap Child.ofNode

end Node

end DocBridge

import DocBridge.Proofs.Route.Search
import Mathlib.Data.List.Nodup

/-!
# The tree of parents

The parents of a search grow by vertices that are new, each with one that is not. However the edges
run, round in circles or from a vertex to itself, they are a tree with the source as its root. Who
follows them from a visited vertex gets to the source, which has no parent, without meeting a vertex
twice, and goes the way that `trace` gives.
-/

namespace DocBridge.Route

variable {α : Type} [DecidableEq α]

/-- Parents that have grown from a root, each time by a new vertex below a discovered one. -/
inductive Rooted (root : α) : Parents α → Prop
  | nil : Rooted root []
  | cons {parents : Parents α} {child parent : α} :
      Rooted root parents → isDiscovered root parents parent → ¬ isDiscovered root parents child →
      Rooted root ((child, parent) :: parents)

/-- The vertices discovered so far, in order of discovery. -/
def visited (root : α) (parents : Parents α) : List α := root :: (parents.map (·.1)).reverse

/-- The parents are followed from a vertex to one that has none. -/
structure WalksBack (parents : Parents α) (vertex root : α) (walk : List α) : Prop where
  head?_eq : walk.head? = some vertex
  getLast?_eq : walk.getLast? = some root
  isChain : walk.IsChain fun child parent => parents.lookup child = some parent
  lookup_root : parents.lookup root = none

/-- From every vertex discovered, none of them twice, the parents are followed back to the root,
which has none, over no vertex twice and so in fewer steps than there are such vertices. -/
structure LeadsBack (root : α) (parents : Parents α) : Prop where
  nodup_visited : (visited root parents).Nodup
  walksBack : ∀ v ∈ visited root parents, WalksBack parents v root (trace parents v)
  nodup_trace : ∀ v ∈ visited root parents, (trace parents v).Nodup
  length_le : ∀ v ∈ visited root parents, (trace parents v).length ≤ (visited root parents).length

section Visited

variable {root v : α} {parents : Parents α}

omit [DecidableEq α] in
theorem visited_cons (root child parent : α) (parents : Parents α) :
    visited root ((child, parent) :: parents) = visited root parents ++ [child] := by
  simp [visited]

omit [DecidableEq α] in
theorem length_visited (root : α) (parents : Parents α) :
    (visited root parents).length = parents.length + 1 := by
  simp [visited]

theorem mem_visited_iff : v ∈ visited root parents ↔ isDiscovered root parents v := by
  simp [visited, isDiscovered]

theorem lookup_eq_none_iff : parents.lookup v = none ↔ v ∉ parents.map (·.1) := by
  rw [List.lookup_eq_none_iff, List.mem_map]
  push Not
  exact forall₂_congr fun _ _ => by rw [bne_iff_ne, ne_comm]

theorem lookup_of_not_isDiscovered (hv : ¬ isDiscovered root parents v) :
    parents.lookup v = none ∧ v ≠ root := by
  rw [← mem_visited_iff, visited, List.mem_cons, List.mem_reverse, not_or] at hv
  exact ⟨lookup_eq_none_iff.mpr hv.2, hv.1⟩

end Visited

namespace WalksBack

variable {root v child parent : α} {parents : Parents α} {walk : List α}

/-- A new vertex below others is on no way from them. -/
theorem cons (h : WalksBack parents v root walk) (hchild : ¬ isDiscovered root parents child)
    (parent : α) : WalksBack ((child, parent) :: parents) v root walk := by
  obtain ⟨hlookup, hroot⟩ := lookup_of_not_isDiscovered hchild
  have hkeep {u : α} (hu : u ≠ child) :
      List.lookup u ((child, parent) :: parents) = parents.lookup u := by
    rw [List.lookup_cons, beq_eq_false_iff_ne.mpr hu]
  refine ⟨h.head?_eq, h.getLast?_eq, h.isChain.imp fun u w huw => ?_, ?_⟩
  · rw [hkeep, huw]
    rintro rfl
    simp [hlookup] at huw
  · rw [hkeep hroot.symm, h.lookup_root]

/-- The way from a vertex goes on as the way from its parent. -/
theorem fromChild (h : WalksBack ((child, parent) :: parents) parent root walk) :
    WalksBack ((child, parent) :: parents) child root (child :: walk) := by
  refine ⟨rfl, ?_, List.isChain_cons.mpr ⟨fun u hu => ?_, h.isChain⟩, h.lookup_root⟩
  · rw [List.getLast?_cons, h.getLast?_eq]
    rfl
  · obtain rfl : parent = u := by simpa [h.head?_eq] using hu
    exact List.lookup_cons_self

end WalksBack

namespace Rooted

variable {root v : α} {parents : Parents α}

theorem nodup_visited (h : Rooted root parents) : (visited root parents).Nodup := by
  induction h with
  | nil => simp [visited]
  | cons _ _ hchild ih =>
      rw [visited_cons, ← List.concat_eq_append, List.nodup_concat]
      exact ⟨fun hmem => hchild (mem_visited_iff.mp hmem), ih⟩

theorem lookup_root (h : Rooted root parents) : parents.lookup root = none := by
  have hroot := (List.nodup_cons.mp h.nodup_visited).1
  exact lookup_eq_none_iff.mpr fun hmem => hroot (List.mem_reverse.mpr hmem)

/-- The way back meets visited vertices only, each later than the next one. -/
theorem trace_sublist (h : Rooted root parents) (hv : isDiscovered root parents v) :
    (trace parents v).Sublist (visited root parents).reverse := by
  induction h generalizing v with
  | nil =>
      obtain rfl : v = root := by simpa [isDiscovered] using hv
      exact List.Sublist.refl _
  | @cons parents child parent _ hparent _ ih =>
      rw [visited_cons, List.reverse_append, List.reverse_singleton, List.singleton_append, trace]
      by_cases hchild : child = v
      · rw [if_pos hchild, hchild]
        exact (ih hparent).cons_cons v
      · rw [if_neg hchild]
        refine (ih ?_).cons child
        exact ((isDiscovered_cons root parent child v parents).mp hv).resolve_left (Ne.symm hchild)

/-- The way back is found by following the parents. -/
theorem walksBack_trace (h : Rooted root parents) (hv : isDiscovered root parents v) :
    WalksBack parents v root (trace parents v) := by
  induction h generalizing v with
  | nil =>
      obtain rfl : v = root := by simpa [isDiscovered] using hv
      exact ⟨rfl, rfl, .singleton v, rfl⟩
  | @cons parents child parent _ hparent hchild ih =>
      rw [trace]
      by_cases heq : child = v
      · rw [if_pos heq, ← heq]
        exact ((ih hparent).cons hchild parent).fromChild
      · rw [if_neg heq]
        refine (ih ?_).cons hchild parent
        exact ((isDiscovered_cons root parent child v parents).mp hv).resolve_left (Ne.symm heq)

theorem leadsBack (h : Rooted root parents) : LeadsBack root parents where
  nodup_visited := h.nodup_visited
  walksBack _ hv := h.walksBack_trace (mem_visited_iff.mp hv)
  nodup_trace _ hv :=
    (List.nodup_reverse.mpr h.nodup_visited).sublist (h.trace_sublist (mem_visited_iff.mp hv))
  length_le _ hv := by
    simpa using (h.trace_sublist (mem_visited_iff.mp hv)).length_le

end Rooted

end DocBridge.Route

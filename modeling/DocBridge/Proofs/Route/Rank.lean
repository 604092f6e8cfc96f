import DocBridge.Route
import Mathlib.Data.List.Basic
import Mathlib.Data.List.Chain
import Mathlib.Data.List.Lex
import Mathlib.Data.Prod.Lex
import Mathlib.Logic.Relation

/-!
# Routes and their ranks

A route is a list of vertices in which every two neighbours are an edge. Its hops are these edges,
and the position of a hop is the first place where it stands among the edges. Routes are ranked by
the number of their vertices, and routes of the same length by the positions of their hops, the
first hop counting most.

The search is compared with this order only. All that is needed of it is how the rank changes when a
vertex is put at the end of a route, since routes are built in no other way.
-/

namespace DocBridge.Route

variable {α : Type}

/-- The vertices of a way from a source to a target over edges, both ends included. -/
def IsRoute (edges : List (α × α)) (source target : α) (path : List α) : Prop :=
  path.head? = some source ∧ path.getLast? = some target ∧
    path.IsChain fun u v => (u, v) ∈ edges

theorem isRoute_singleton (edges : List (α × α)) (vertex : α) :
    IsRoute edges vertex vertex [vertex] :=
  ⟨rfl, rfl, .singleton vertex⟩

section Routes

variable {edges more : List (α × α)} {source target u v : α} {path : List α}

theorem IsRoute.ne_nil (h : IsRoute edges source target path) : path ≠ [] := by
  rintro rfl
  simp [IsRoute] at h

theorem IsRoute.concat (h : IsRoute edges source u path) (hedge : (u, v) ∈ edges) :
    IsRoute edges source v (path ++ [v]) := by
  obtain ⟨hhead, hlast, hchain⟩ := h
  refine ⟨by simp [hhead], by simp, ?_⟩
  refine hchain.append (.singleton v) ?_
  intro x hx y hy
  obtain rfl : u = x := by simpa [hlast] using hx
  obtain rfl : v = y := by simpa using hy
  exact hedge

/-- Routes grow at their end, from the one that stays at the source. -/
@[elab_as_elim]
theorem IsRoute.concatInduction
    {motive : (target : α) → (path : List α) → IsRoute edges source target path → Prop}
    (start : motive source [source] (isRoute_singleton edges source))
    (concat : ∀ {u v path} (h : IsRoute edges source u path) (hedge : (u, v) ∈ edges),
      motive u path h → motive v (path ++ [v]) (h.concat hedge))
    {target : α} {path : List α} (h : IsRoute edges source target path) :
    motive target path h := by
  induction path using List.reverseRecOn generalizing target with
  | nil => exact absurd rfl h.ne_nil
  | append_singleton path w ih =>
      obtain ⟨hhead, hlast, hchain⟩ := id h
      obtain rfl : w = target := by simpa using hlast
      cases hu : path.getLast? with
      | none =>
          obtain rfl : path = [] := List.getLast?_eq_none_iff.mp hu
          obtain rfl : w = source := by simpa using hhead
          exact start
      | some u =>
          have hne : path ≠ [] := by
            rintro rfl
            simp at hu
          have hroute : IsRoute edges source u path :=
            ⟨by simpa [List.head?_append_of_ne_nil _ hne] using hhead, hu, hchain.left_of_append⟩
          have hedge : (u, w) ∈ edges :=
            (List.isChain_append.mp hchain).2.2 u (by simp [hu]) w (by simp)
          exact concat hroute hedge (ih hroute)

theorem IsRoute.mono (h : IsRoute edges source target path) (hsub : edges ⊆ more) :
    IsRoute more source target path :=
  ⟨h.1, h.2.1, h.2.2.imp fun _ _ hedge => hsub hedge⟩

theorem IsRoute.two_le_length (h : IsRoute edges source target path) (hne : source ≠ target) :
    2 ≤ path.length := by
  induction h using IsRoute.concatInduction with
  | start => exact absurd rfl hne
  | concat hroute _ _ =>
      have hpos := List.length_pos_of_ne_nil hroute.ne_nil
      rw [List.length_append, List.length_singleton]
      omega

theorem IsRoute.forall_mem {P : α → Prop} (h : IsRoute edges source target path)
    (hsource : P source) (hedges : ∀ edge ∈ edges, P edge.2) : ∀ vertex ∈ path, P vertex := by
  induction h using IsRoute.concatInduction with
  | start => simpa using hsource
  | concat _ hedge ih =>
      intro vertex hvertex
      rcases List.mem_append.mp hvertex with hvertex | hvertex
      · exact ih vertex hvertex
      · obtain rfl := List.mem_singleton.mp hvertex
        exact hedges _ hedge

/-- A vertex can be reached when some route leads there. -/
theorem reachable_iff_exists_isRoute :
    Relation.ReflTransGen (fun u v => (u, v) ∈ edges) source target ↔
      ∃ path, IsRoute edges source target path := by
  constructor
  · intro h
    induction h with
    | refl => exact ⟨[source], isRoute_singleton edges source⟩
    | tail _ hedge ih =>
        obtain ⟨path, hpath⟩ := ih
        exact ⟨path ++ [_], hpath.concat hedge⟩
  · intro h
    obtain ⟨path, hpath⟩ := h
    induction hpath using IsRoute.concatInduction with
    | start => exact .refl
    | concat _ hedge ih => exact ih.tail hedge

end Routes

/-! ### Hops and positions -/

/-- The edges that a list of vertices goes over. -/
def hops (path : List α) : List (α × α) := path.zip path.tail

theorem length_hops (path : List α) : (hops path).length = path.length - 1 := by
  simp [hops]

theorem hops_concat {path : List α} {u : α} (hlast : path.getLast? = some u) (v : α) :
    hops (path ++ [v]) = hops path ++ [(u, v)] := by
  induction path with
  | nil => simp at hlast
  | cons x rest ih =>
      cases rest with
      | nil =>
          obtain rfl : x = u := by simpa using hlast
          rfl
      | cons y rest =>
          have hrest : (y :: rest).getLast? = some u := by simpa using hlast
          change (x, y) :: hops (y :: rest ++ [v]) = (x, y) :: (hops (y :: rest) ++ [(u, v)])
          rw [ih hrest]

theorem IsRoute.hops_subset {edges : List (α × α)} {source target : α} {path : List α}
    (h : IsRoute edges source target path) : hops path ⊆ edges := by
  induction h using IsRoute.concatInduction with
  | start => simp [hops]
  | concat hroute hedge ih =>
      rw [hops_concat hroute.2.1]
      exact List.append_subset.mpr ⟨ih, by simpa using hedge⟩

theorem IsRoute.of_hops_subset {edges more : List (α × α)} {source target : α} {path : List α}
    (h : IsRoute edges source target path) (hsub : hops path ⊆ more) :
    IsRoute more source target path := by
  induction h using IsRoute.concatInduction with
  | start => exact isRoute_singleton more source
  | concat hroute _ ih =>
      rw [hops_concat hroute.2.1] at hsub
      obtain ⟨hpath, hedge⟩ := List.append_subset.mp hsub
      exact (ih hpath).concat (by simpa using hedge)

theorem IsRoute.eq_of_hops_eq {edges more : List (α × α)} {source target goal : α}
    {path other : List α} (hpath : IsRoute edges source target path)
    (hother : IsRoute more source goal other) (hhops : hops path = hops other) : path = other := by
  have hlength : path.length = other.length := by
    have hp := List.length_pos_of_ne_nil hpath.ne_nil
    have ho := List.length_pos_of_ne_nil hother.ne_nil
    have := congrArg List.length hhops
    rw [length_hops, length_hops] at this
    omega
  have htails : path.tail = other.tail := by
    have := congrArg (List.map Prod.snd) hhops
    rwa [hops, hops, List.map_snd_zip (by simp), List.map_snd_zip (by simp)] at this
  rw [← List.cons_head?_tail hpath.1, ← List.cons_head?_tail hother.1, htails]

variable [DecidableEq α]

/-- Where each hop stands first among the edges. -/
def positions (edges : List (α × α)) (path : List α) : List Nat :=
  (hops path).map fun hop => edges.idxOf hop

theorem length_positions (edges : List (α × α)) (path : List α) :
    (positions edges path).length = path.length - 1 := by
  rw [positions, List.length_map, length_hops]

theorem positions_concat {edges : List (α × α)} {path : List α} {u : α}
    (hlast : path.getLast? = some u) (v : α) :
    positions edges (path ++ [v]) = positions edges path ++ [edges.idxOf (u, v)] := by
  simp only [positions, hops_concat hlast, List.map_append, List.map_cons, List.map_nil]

theorem IsRoute.positions_append {edges : List (α × α)} {source target : α} {path : List α}
    (h : IsRoute edges source target path) (more : List (α × α)) :
    positions (edges ++ more) path = positions edges path :=
  List.map_congr_left fun _ hhop => List.idxOf_append_of_mem (h.hops_subset hhop)

theorem IsRoute.map_getElem?_positions {edges : List (α × α)} {source target : α} {path : List α}
    (h : IsRoute edges source target path) :
    ((positions edges path).map fun position => edges[position]?) = (hops path).map some := by
  rw [positions, List.map_map]
  exact List.map_congr_left fun _ hhop => List.getElem?_idxOf (h.hops_subset hhop)

/-! ### Ranks -/

/-- The number of vertices first, then the positions of the hops. -/
def rank (edges : List (α × α)) (path : List α) : ℕ ×ₗ List ℕ :=
  toLex (path.length, positions edges path)

theorem rank_lt_iff {edges : List (α × α)} {path other : List α} :
    rank edges path < rank edges other ↔ path.length < other.length ∨
      path.length = other.length ∧ positions edges path < positions edges other :=
  Prod.Lex.toLex_lt_toLex

theorem length_le_of_rank_le {edges : List (α × α)} {path other : List α}
    (h : rank edges path ≤ rank edges other) : path.length ≤ other.length := by
  rcases Prod.Lex.toLex_le_toLex.mp h with hlt | ⟨heq, -⟩
  · exact Nat.le_of_lt hlt
  · exact Nat.le_of_eq heq

/-- From one source there is at most one route of each rank. -/
theorem IsRoute.eq_of_rank_eq {edges : List (α × α)} {source target goal : α} {path other : List α}
    (hpath : IsRoute edges source target path) (hother : IsRoute edges source goal other)
    (heq : rank edges path = rank edges other) : path = other := by
  obtain ⟨-, hpositions⟩ := Prod.mk.inj (toLex.injective heq)
  have hhops : (hops path).map some = (hops other).map some := by
    rw [← hpath.map_getElem?_positions, ← hother.map_getElem?_positions, hpositions]
  apply hpath.eq_of_hops_eq hother
  exact (List.map_inj_right fun _ _ => Option.some.inj).mp hhops

/-- Among lists of one length what comes behind a difference does not count. -/
theorem append_lt_append {xs ys : List Nat} (hlength : xs.length = ys.length) (hlt : xs < ys)
    (xs' ys' : List Nat) : xs ++ xs' < ys ++ ys' := by
  induction xs generalizing ys with
  | nil =>
      obtain rfl : ys = [] := List.eq_nil_of_length_eq_zero hlength.symm
      exact absurd hlt (lt_irrefl _)
  | cons x xs ih =>
      cases ys with
      | nil => simp at hlength
      | cons y ys =>
          rw [List.cons_append, List.cons_append, List.cons_lt_cons_iff]
          rcases List.cons_lt_cons_iff.mp hlt with hxy | ⟨rfl, htail⟩
          · exact .inl hxy
          · exact .inr ⟨rfl, ih (Nat.succ.inj hlength) htail⟩

section Concat

variable {edges : List (α × α)} {path other : List α} {u v w : α}

theorem rank_le_append (added : List α) : rank edges path ≤ rank edges (path ++ added) := by
  cases added with
  | nil => rw [List.append_nil]
  | cons x rest =>
      refine (rank_lt_iff.mpr (.inl ?_)).le
      rw [List.length_append, List.length_cons]
      omega

theorem rank_concat_lt_concat (hpath : path.getLast? = some u) (hother : other.getLast? = some w)
    (h : rank edges path < rank edges other) (x y : α) :
    rank edges (path ++ [x]) < rank edges (other ++ [y]) := by
  rw [rank_lt_iff] at h ⊢
  rw [List.length_append, List.length_append]
  rcases h with hshort | ⟨hlength, hpositions⟩
  · exact .inl (Nat.add_lt_add_right hshort 1)
  · refine .inr ⟨by rw [hlength]; rfl, ?_⟩
    rw [positions_concat hpath, positions_concat hother]
    refine append_lt_append ?_ hpositions _ _
    rw [length_positions, length_positions, hlength]

theorem rank_concat_le_concat (hpath : path.getLast? = some u) (hother : other.getLast? = some u)
    (h : rank edges path ≤ rank edges other) (v : α) :
    rank edges (path ++ [v]) ≤ rank edges (other ++ [v]) := by
  rcases h.lt_or_eq with hlt | heq
  · exact (rank_concat_lt_concat hpath hother hlt v v).le
  · obtain ⟨hlength, hpositions⟩ := Prod.mk.inj (toLex.injective heq)
    apply le_of_eq
    rw [rank, rank, positions_concat hpath, positions_concat hother, hpositions,
      List.length_append, List.length_append, hlength]

theorem rank_concat_lt_of_idxOf_lt (hpath : path.getLast? = some u)
    (h : edges.idxOf (u, v) < edges.idxOf (u, w)) :
    rank edges (path ++ [v]) < rank edges (path ++ [w]) := by
  rw [rank_lt_iff, positions_concat hpath, positions_concat hpath]
  refine .inr ⟨by simp, List.append_left_lt ?_⟩
  exact List.cons_lt_cons_iff.mpr (.inl h)

end Concat

end DocBridge.Route

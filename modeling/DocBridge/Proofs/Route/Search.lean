import DocBridge.Proofs.Route.Rank

/-!
# The order of discovery

The search discovers vertices in the order of the ranks of their routes, and the route that it keeps
for a vertex is of the least rank. Both follow from one invariant, `Ordered`, which speaks of the
vertices discovered so far, the latest last, and of the edges tried so far. Trying one more edge
keeps it, whether the edge discovers a vertex or not, because every edge tried before gives a route
of lower rank.

The states of a search between two expansions are the relation `Passes`. How the search shrinks its
edges is settled once, in `stops_search`; everything else is said of `Passes` over all edges.
-/

namespace DocBridge.Route

variable {α : Type} [DecidableEq α]

/-- The route that was kept for a vertex. -/
def routeTo (parents : Parents α) (vertex : α) : List α := (trace parents vertex).reverse

theorem routeTo_cons_self (parents : Parents α) (u v : α) :
    routeTo ((v, u) :: parents) v = routeTo parents u ++ [v] := by
  simp [routeTo, trace]

theorem routeTo_cons_of_ne (parents : Parents α) {u v w : α} (h : v ≠ w) :
    routeTo ((v, u) :: parents) w = routeTo parents w := by
  simp [routeTo, trace, h]

theorem isDiscovered_cons (source u v w : α) (parents : Parents α) :
    isDiscovered source ((v, u) :: parents) w ↔ w = v ∨ isDiscovered source parents w := by
  simp only [isDiscovered, List.any_cons, Bool.or_eq_true, decide_eq_true_eq]
  constructor
  · intro h
    obtain h | rfl | h := h
    · exact .inr (.inl h)
    · exact .inl rfl
    · exact .inr (.inr h)
  · intro h
    obtain rfl | h | h := h
    · exact .inr (.inl rfl)
    · exact .inl h
    · exact .inr (.inr h)

/-- The states of a search after some vertices have been expanded. -/
inductive Passes (edges : List (α × α)) (source target : α) :
    (expanded : List α) → (parents : Parents α) → (queue : List α) → Prop
  | start : Passes edges source target [] [] [source]
  | step {expanded : List α} {parents later : Parents α} {current : α}
      {waiting discovered : List α} :
      Passes edges source target expanded parents (current :: waiting) →
      expand source target current parents (endsFrom edges current) =
        .explored later discovered →
      Passes edges source target (expanded ++ [current]) later (waiting ++ discovered)

/-! ### Edges in the order in which they are tried -/

/-- What holds when the edges in `tried` have been tried and the vertices in `order` discovered. -/
structure Ordered (edges : List (α × α)) (source : α) (tried : α → α → Prop) (order : List α)
    (parents : Parents α) : Prop where
  isDiscovered_iff : ∀ v, isDiscovered source parents v ↔ v ∈ order
  isRoute : ∀ v ∈ order, IsRoute edges source v (routeTo parents v)
  increasing : order.Pairwise fun u v =>
    rank edges (routeTo parents u) < rank edges (routeTo parents v)
  routeTo_source : routeTo parents source = [source]
  via : ∀ v ∈ order, v = source ∨
    ∃ u, tried u v ∧ routeTo parents v = routeTo parents u ++ [v]
  mem_of_tried : ∀ u v, tried u v → u ∈ order ∧ v ∈ order
  rank_le : ∀ u v, tried u v →
    rank edges (routeTo parents v) ≤ rank edges (routeTo parents u ++ [v])

namespace Ordered

variable {edges : List (α × α)} {source current next : α} {tried : α → α → Prop}
  {order : List α} {parents : Parents α}

theorem source_mem (h : Ordered edges source tried order parents) : source ∈ order :=
  (h.isDiscovered_iff source).mp (by simp [isDiscovered])

/-- A route that goes on from a discovered vertex over an edge not tried before is higher than the
routes to all that is discovered. -/
theorem rank_lt_concat (h : Ordered edges source tried order parents) (hcurrent : current ∈ order)
    (hlater : ∀ u v, tried u v →
      rank edges (routeTo parents u ++ [v]) < rank edges (routeTo parents current ++ [next]))
    {v : α} (hv : v ∈ order) :
    rank edges (routeTo parents v) < rank edges (routeTo parents current ++ [next]) := by
  rcases h.via v hv with rfl | ⟨u, hu, hroute⟩
  · have := List.length_pos_of_ne_nil (h.isRoute current hcurrent).ne_nil
    rw [h.routeTo_source, rank_lt_iff, List.length_append]
    exact .inl (by simpa using this)
  · rw [hroute]
    exact hlater u v hu

/-- An edge to a vertex that is discovered already changes nothing. -/
theorem skip (h : Ordered edges source tried order parents) (hcurrent : current ∈ order)
    (hnext : next ∈ order)
    (hlater : ∀ u v, tried u v →
      rank edges (routeTo parents u ++ [v]) < rank edges (routeTo parents current ++ [next])) :
    Ordered edges source (fun u v => tried u v ∨ u = current ∧ v = next) order parents where
  isDiscovered_iff := h.isDiscovered_iff
  isRoute := h.isRoute
  increasing := h.increasing
  routeTo_source := h.routeTo_source
  via v hv := (h.via v hv).imp id fun ⟨u, hu, hroute⟩ => ⟨u, .inl hu, hroute⟩
  mem_of_tried := by
    rintro u v (hu | ⟨rfl, rfl⟩)
    · exact h.mem_of_tried u v hu
    · exact ⟨hcurrent, hnext⟩
  rank_le := by
    rintro u v (hu | ⟨rfl, rfl⟩)
    · exact h.rank_le u v hu
    · exact (h.rank_lt_concat hcurrent hlater hnext).le

/-- An edge to a new vertex puts it behind all others. -/
theorem discover (h : Ordered edges source tried order parents) (hcurrent : current ∈ order)
    (hnext : next ∉ order) (hedge : (current, next) ∈ edges)
    (hlater : ∀ u v, tried u v →
      rank edges (routeTo parents u ++ [v]) < rank edges (routeTo parents current ++ [next])) :
    Ordered edges source (fun u v => tried u v ∨ u = current ∧ v = next) (order ++ [next])
      ((next, current) :: parents) := by
  have hkeep : ∀ v ∈ order, routeTo ((next, current) :: parents) v = routeTo parents v := by
    intro v hv
    apply routeTo_cons_of_ne
    rintro rfl
    exact hnext hv
  have hnew : routeTo ((next, current) :: parents) next = routeTo parents current ++ [next] :=
    routeTo_cons_self parents current next
  constructor
  case isDiscovered_iff =>
    intro v
    rw [isDiscovered_cons, h.isDiscovered_iff, List.mem_append, List.mem_singleton, or_comm]
  case isRoute =>
    intro v hv
    rcases List.mem_append.mp hv with hv | hv
    · rw [hkeep v hv]
      exact h.isRoute v hv
    · obtain rfl := List.mem_singleton.mp hv
      rw [hnew]
      exact (h.isRoute current hcurrent).concat hedge
  case increasing =>
    rw [List.pairwise_append]
    refine ⟨h.increasing.imp_of_mem fun hu hv huv => ?_, List.pairwise_singleton _ _, ?_⟩
    · rwa [hkeep _ hu, hkeep _ hv]
    · intro v hv w hw
      obtain rfl := List.mem_singleton.mp hw
      rw [hkeep v hv, hnew]
      exact h.rank_lt_concat hcurrent hlater hv
  case routeTo_source =>
    rw [hkeep source h.source_mem, h.routeTo_source]
  case via =>
    intro v hv
    rcases List.mem_append.mp hv with hv | hv
    · rcases h.via v hv with hsource | ⟨u, hu, hroute⟩
      · exact .inl hsource
      · refine .inr ⟨u, .inl hu, ?_⟩
        rw [hkeep v hv, hkeep u (h.mem_of_tried u v hu).1, hroute]
    · obtain rfl := List.mem_singleton.mp hv
      refine .inr ⟨current, .inr ⟨rfl, rfl⟩, ?_⟩
      rw [hnew, hkeep current hcurrent]
  case mem_of_tried =>
    rintro u v (hu | ⟨rfl, rfl⟩)
    · exact (h.mem_of_tried u v hu).imp (List.mem_append_left _) (List.mem_append_left _)
    · exact ⟨List.mem_append_left _ hcurrent, List.mem_append_right _ (by simp)⟩
  case rank_le =>
    rintro u v (hu | ⟨rfl, rfl⟩)
    · obtain ⟨hmem, hmem'⟩ := h.mem_of_tried u v hu
      rw [hkeep u hmem, hkeep v hmem']
      exact h.rank_le u v hu
    · rw [hnew, hkeep u hcurrent]

end Ordered

/-! ### Expanding a vertex -/

/-- The edges tried when some vertices are expanded and one has come as far as some edges. -/
def TriedUpTo (edges : List (α × α)) (expanded : List α) (current : α) (done : List (α × α))
    (u v : α) : Prop :=
  u ∈ expanded ∧ (u, v) ∈ edges ∨ u = current ∧ (u, v) ∈ done

section Expand

variable {edges done rest : List (α × α)} {source target current : α} {expanded order : List α}
  {parents later : Parents α} {discovered : List α}

/-- Every edge tried before gives a lower route than the next one, unless it is the same edge. -/
theorem Ordered.rank_lt_next {next : α}
    (h : Ordered edges source (TriedUpTo edges expanded current done) order parents)
    (hedges : edges = done ++ (current, next) :: rest) (hbegin : expanded ++ [current] <+: order)
    (hnew : (current, next) ∉ done) {u v : α} (huv : TriedUpTo edges expanded current done u v) :
    rank edges (routeTo parents u ++ [v]) < rank edges (routeTo parents current ++ [next]) := by
  have hsub : expanded ++ [current] ⊆ order := hbegin.subset
  have hcurrent : current ∈ order := hsub (by simp)
  have hlast := (h.isRoute current hcurrent).2.1
  rcases huv with ⟨hu, -⟩ | ⟨rfl, hv⟩
  · have hlower : rank edges (routeTo parents u) < rank edges (routeTo parents current) := by
      have := List.pairwise_append.mp (h.increasing.sublist hbegin.sublist)
      exact this.2.2 u hu current (by simp)
    exact rank_concat_lt_concat (h.isRoute u (hsub (by simp [hu]))).2.1 hlast hlower v next
  · apply rank_concat_lt_of_idxOf_lt hlast
    rw [hedges, List.idxOf_append_of_mem hv, List.idxOf_append_of_notMem hnew]
    have := List.idxOf_lt_length_of_mem hv
    omega

theorem triedUpTo_concat (next : α) :
    TriedUpTo edges expanded current (done ++ [(current, next)]) =
      fun u v => TriedUpTo edges expanded current done u v ∨ u = current ∧ v = next := by
  funext u v
  simp only [TriedUpTo, List.mem_append, List.mem_singleton, Prod.mk.injEq, eq_iff_iff]
  tauto

omit [DecidableEq α] in
theorem triedUpTo_concat_of_ne {edge : α × α} (hne : edge.1 ≠ current) :
    TriedUpTo edges expanded current (done ++ [edge]) =
      TriedUpTo edges expanded current done := by
  funext u v
  simp only [TriedUpTo, List.mem_append, List.mem_singleton, eq_iff_iff]
  constructor
  · intro h
    obtain h | ⟨rfl, h | rfl⟩ := h
    · exact .inl h
    · exact .inr ⟨rfl, h⟩
    · exact absurd rfl hne
  · exact Or.imp id (And.imp id .inl)

theorem Ordered.skip_next {next : α}
    (h : Ordered edges source (TriedUpTo edges expanded current done) order parents)
    (hedges : edges = done ++ (current, next) :: rest) (hbegin : expanded ++ [current] <+: order)
    (hnext : isDiscovered source parents next) :
    Ordered edges source (TriedUpTo edges expanded current (done ++ [(current, next)])) order
      parents := by
  by_cases hdone : (current, next) ∈ done
  · have hsame : TriedUpTo edges expanded current (done ++ [(current, next)]) =
        TriedUpTo edges expanded current done := by
      funext u v
      rw [triedUpTo_concat]
      refine propext ⟨?_, .inl⟩
      intro h
      obtain huv | ⟨rfl, rfl⟩ := h
      · exact huv
      · exact .inr ⟨rfl, hdone⟩
    rwa [hsame]
  · rw [triedUpTo_concat]
    exact h.skip (hbegin.subset (by simp)) ((h.isDiscovered_iff next).mp hnext)
      fun _ _ huv => h.rank_lt_next hedges hbegin hdone huv

theorem Ordered.discover_next {next : α}
    (h : Ordered edges source (TriedUpTo edges expanded current done) order parents)
    (hedges : edges = done ++ (current, next) :: rest) (hbegin : expanded ++ [current] <+: order)
    (hnext : ¬ isDiscovered source parents next) :
    Ordered edges source (TriedUpTo edges expanded current (done ++ [(current, next)]))
      (order ++ [next]) ((next, current) :: parents) := by
  have hfresh : next ∉ order := fun hmem => hnext ((h.isDiscovered_iff next).mpr hmem)
  have hdone : (current, next) ∉ done := fun hmem =>
    hfresh (h.mem_of_tried current next (.inr ⟨rfl, hmem⟩)).2
  rw [triedUpTo_concat]
  exact h.discover (hbegin.subset (by simp)) hfresh (by simp [hedges])
    fun _ _ huv => h.rank_lt_next hedges hbegin hdone huv

/-- Expanding a vertex tries all its edges. -/
theorem Ordered.expand (hedges : edges = done ++ rest) (hbegin : expanded ++ [current] <+: order)
    (h : Ordered edges source (TriedUpTo edges expanded current done) order parents)
    (hrun : Route.expand source target current parents (endsFrom rest current) =
      .explored later discovered) :
    Ordered edges source (TriedUpTo edges expanded current edges) (order ++ discovered) later ∧
      target ∉ discovered := by
  induction rest generalizing done order parents later discovered with
  | nil =>
      obtain ⟨rfl, rfl⟩ : parents = later ∧ [] = discovered := by
        simpa [endsFrom, Route.expand] using hrun
      rw [List.append_nil] at hedges
      subst hedges
      exact ⟨by rwa [List.append_nil], by simp⟩
  | cons edge rest ih =>
      have hedges' : edges = (done ++ [edge]) ++ rest := by simp [hedges]
      by_cases hfrom : edge.1 = current
      · obtain ⟨x, next⟩ := edge
        obtain rfl : x = current := hfrom
        have hends : endsFrom ((x, next) :: rest) x = next :: endsFrom rest x := by
          simp [endsFrom]
        rw [hends, Route.expand] at hrun
        by_cases hnext : isDiscovered source parents next = true
        · rw [if_pos hnext] at hrun
          exact ih hedges' hbegin (h.skip_next hedges hbegin hnext) hrun
        · have hstep := h.discover_next hedges hbegin hnext
          rw [if_neg hnext] at hrun
          by_cases htarget : next = target
          · simp [htarget] at hrun
          · simp only [if_neg htarget] at hrun
            split at hrun
            · simp at hrun
            · next later' discovered' heq =>
                obtain ⟨rfl, rfl⟩ : later' = later ∧ next :: discovered' = discovered := by
                  simpa using hrun
                obtain ⟨hordered, hnot⟩ :=
                  ih hedges' (hbegin.trans (List.prefix_append _ _)) hstep heq
                refine ⟨by simpa using hordered, ?_⟩
                simp only [List.mem_cons, not_or]
                exact ⟨fun he => htarget he.symm, hnot⟩
      · have hends : endsFrom (edge :: rest) current = endsFrom rest current := by
          simp [endsFrom, hfrom]
        rw [hends] at hrun
        refine ih hedges' hbegin ?_ hrun
        rwa [triedUpTo_concat_of_ne hfrom]

theorem routeTo_of_expand_reached {ends : List α} {found : Parents α}
    (hcurrent : isDiscovered source parents current)
    (hrun : Route.expand source target current parents ends = .reached found) :
    target ∈ ends ∧ routeTo found target = routeTo parents current ++ [target] := by
  induction ends generalizing parents with
  | nil => simp [Route.expand] at hrun
  | cons next rest ih =>
      rw [Route.expand] at hrun
      by_cases hnext : isDiscovered source parents next = true
      · rw [if_pos hnext] at hrun
        exact (ih hcurrent hrun).imp (List.mem_cons_of_mem _) id
      · rw [if_neg hnext] at hrun
        have hne : next ≠ current := by
          rintro rfl
          exact hnext hcurrent
        by_cases htarget : next = target
        · obtain rfl : (next, current) :: parents = found := by simpa [htarget] using hrun
          subst htarget
          exact ⟨List.mem_cons_self, routeTo_cons_self parents current next⟩
        · simp only [if_neg htarget] at hrun
          split at hrun
          · next found' heq =>
              obtain rfl : found' = found := by simpa using hrun
              obtain ⟨hmem, hroute⟩ :=
                ih ((isDiscovered_cons source current next current parents).mpr (.inr hcurrent)) heq
              refine ⟨List.mem_cons_of_mem _ hmem, ?_⟩
              rw [hroute, routeTo_cons_of_ne parents hne]
          · simp at hrun

end Expand

/-! ### The run -/

/-- What is kept from one expansion to the next. -/
theorem Passes.ordered {edges : List (α × α)} {source target : α} (hne : source ≠ target)
    {expanded : List α} {parents : Parents α} {queue : List α}
    (h : Passes edges source target expanded parents queue) :
    Ordered edges source (fun u v => u ∈ expanded ∧ (u, v) ∈ edges) (expanded ++ queue) parents ∧
      target ∉ expanded ++ queue := by
  induction h with
  | start =>
      refine ⟨?_, by simpa using hne.symm⟩
      constructor
      case isDiscovered_iff => simp [isDiscovered]
      case isRoute =>
        intro v hv
        obtain rfl : v = source := by simpa using hv
        exact isRoute_singleton edges v
      case routeTo_source => rfl
      all_goals simp
  | @step expanded parents later current waiting discovered _ hrun ih =>
      obtain ⟨hordered, hnot⟩ := ih
      have hbegin : expanded ++ [current] <+: expanded ++ current :: waiting :=
        ⟨waiting, by simp⟩
      have hstart : TriedUpTo edges expanded current [] =
          fun u v => u ∈ expanded ∧ (u, v) ∈ edges := by
        funext u v
        simp [TriedUpTo]
      have hend : TriedUpTo edges expanded current edges =
          fun u v => u ∈ expanded ++ [current] ∧ (u, v) ∈ edges := by
        funext u v
        simp only [TriedUpTo, List.mem_append, List.mem_singleton, eq_iff_iff]
        tauto
      have horder : expanded ++ current :: waiting ++ discovered =
          expanded ++ [current] ++ (waiting ++ discovered) := by simp
      rw [← hstart] at hordered
      obtain ⟨hordered', hnot'⟩ := hordered.expand (List.nil_append edges).symm hbegin hrun
      rw [hend, horder] at hordered'
      refine ⟨hordered', ?_⟩
      rw [← horder, List.mem_append, not_or]
      exact ⟨hnot, hnot'⟩

/-- The ways in which a search ends: at the target, or with nothing left to expand. -/
inductive Stops (edges : List (α × α)) (source target : α) : Option (Parents α) → Prop
  | found {expanded : List α} {parents found : Parents α} {current : α} {waiting : List α} :
      Passes edges source target expanded parents (current :: waiting) →
      expand source target current parents (endsFrom edges current) = .reached found →
      Stops edges source target (some found)
  | exhausted {expanded : List α} {parents : Parents α} :
      Passes edges source target expanded parents [] → Stops edges source target none

/-- The edges that a search has left when some vertices are expanded. -/
def edgesLeft (edges : List (α × α)) (expanded : List α) : List (α × α) :=
  edges.filter fun edge => edge.1 ∉ expanded

theorem edgesApart_edgesLeft (edges : List (α × α)) (expanded : List α) (current : α) :
    edgesApart (edgesLeft edges expanded) current = edgesLeft edges (expanded ++ [current]) := by
  rw [edgesApart, edgesLeft, edgesLeft, List.filter_filter]
  refine List.filter_congr fun edge _ => ?_
  simp only [List.mem_append, List.mem_singleton, not_or, decide_not, Bool.decide_and]
  exact Bool.and_comm _ _

theorem endsFrom_edgesLeft {edges : List (α × α)} {expanded : List α} {current : α}
    (hcurrent : current ∉ expanded) :
    endsFrom (edgesLeft edges expanded) current = endsFrom edges current := by
  rw [endsFrom, endsFrom, edgesLeft, List.filter_filter]
  refine congrArg _ (List.filter_congr fun edge _ => ?_)
  by_cases hedge : edge.1 = current
  · simp [hedge, hcurrent]
  · simp [hedge]

theorem Passes.notMem_expanded {edges : List (α × α)} {source target : α} (hne : source ≠ target)
    {expanded : List α} {parents : Parents α} {current : α} {waiting : List α}
    (h : Passes edges source target expanded parents (current :: waiting)) :
    current ∉ expanded := by
  intro hmem
  have hincreasing := (h.ordered hne).1.increasing
  exact lt_irrefl _ ((List.pairwise_append.mp hincreasing).2.2 current hmem current (by simp))

theorem stops_search {edges : List (α × α)} {source target : α} (hne : source ≠ target)
    {left : List (α × α)} {expanded : List α} {parents : Parents α} {queue : List α}
    (h : Passes edges source target expanded parents queue)
    (hleft : left = edgesLeft edges expanded) :
    Stops edges source target (search source target left parents queue) := by
  induction left, parents, queue using search.induct source target
      generalizing expanded with
  | case1 left parents =>
      rw [search]
      exact .exhausted h
  | case2 left parents current waiting found heq =>
      have hrun : expand source target current parents (endsFrom edges current) =
          .reached found := by
        rw [← endsFrom_edgesLeft (h.notMem_expanded hne), ← hleft, heq]
      rw [search]
      split
      · next found' heq' =>
          obtain rfl : found = found' := by simpa [heq] using heq'
          exact .found h hrun
      · next heq' => simp [heq] at heq'
  | case3 left parents current waiting later discovered heq ih =>
      have hrun : expand source target current parents (endsFrom edges current) =
          .explored later discovered := by
        rw [← endsFrom_edgesLeft (h.notMem_expanded hne), ← hleft, heq]
      have hnext := ih (h.step hrun) (by rw [hleft, edgesApart_edgesLeft])
      rw [search]
      split
      · next heq' => simp [heq] at heq'
      · next later' discovered' heq' =>
          obtain ⟨rfl, rfl⟩ : later = later' ∧ discovered = discovered' := by
            simpa [heq] using heq'
          exact hnext

end DocBridge.Route

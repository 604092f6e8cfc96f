import DocBridge.Proofs.Route.Search

/-!
# The route of least rank

Every route to a vertex either ends among the expanded vertices or passes through the queue, and
where it first does the kept route is at least as low. So the route that is found when the target is
discovered is the lowest of all, and when the queue runs empty there is none.

That the found route is shortest, that among the shortest it takes the earliest edges, and what
further edges can change about it, are read off its rank.
-/

namespace DocBridge.Route

variable {α : Type} [DecidableEq α] {edges : List (α × α)} {source target : α}

/-- A route ends at an expanded vertex, or a first part of it ends in the queue. -/
theorem Passes.frontier (hne : source ≠ target) {expanded : List α} {parents : Parents α}
    {queue : List α} (h : Passes edges source target expanded parents queue) {goal : α}
    {path : List α} (hpath : IsRoute edges source goal path) :
    (goal ∈ expanded ∧ rank edges (routeTo parents goal) ≤ rank edges path) ∨
      ∃ v ∈ queue, ∃ begun added, path = begun ++ added ∧ IsRoute edges source v begun ∧
        rank edges (routeTo parents v) ≤ rank edges begun := by
  obtain ⟨hordered, -⟩ := h.ordered hne
  have hplace : ∀ {v : α} {begun : List α}, v ∈ expanded ++ queue → IsRoute edges source v begun →
      rank edges (routeTo parents v) ≤ rank edges begun →
      (v ∈ expanded ∧ rank edges (routeTo parents v) ≤ rank edges begun) ∨
        ∃ w ∈ queue, ∃ start added, begun = start ++ added ∧ IsRoute edges source w start ∧
          rank edges (routeTo parents w) ≤ rank edges start := by
    intro v begun hv hroute hle
    rcases List.mem_append.mp hv with hv | hv
    · exact .inl ⟨hv, hle⟩
    · exact .inr ⟨v, hv, begun, [], (List.append_nil begun).symm, hroute, hle⟩
  induction hpath using IsRoute.concatInduction with
  | start =>
      refine hplace hordered.source_mem (isRoute_singleton edges source) ?_
      rw [hordered.routeTo_source]
  | @concat u v path hroute hedge ih =>
      rcases ih with ⟨hu, hle⟩ | ⟨w, hw, begun, added, rfl, hbegun, hle⟩
      · obtain ⟨hmem, hmem'⟩ := hordered.mem_of_tried u v ⟨hu, hedge⟩
        refine hplace hmem' (hroute.concat hedge) ?_
        calc rank edges (routeTo parents v)
            ≤ rank edges (routeTo parents u ++ [v]) := hordered.rank_le u v ⟨hu, hedge⟩
          _ ≤ rank edges (path ++ [v]) :=
              rank_concat_le_concat (hordered.isRoute u hmem).2.1 hroute.2.1 hle v
      · exact .inr ⟨w, hw, begun, added ++ [v], by simp, hbegun, hle⟩

/-- No route to the target is lower than one over an edge from the front of the queue. -/
theorem Passes.rank_le (hne : source ≠ target) {expanded : List α} {parents : Parents α}
    {current : α} {waiting : List α}
    (h : Passes edges source target expanded parents (current :: waiting)) {other : List α}
    (hother : IsRoute edges source target other) :
    rank edges (routeTo parents current ++ [target]) ≤ rank edges other := by
  obtain ⟨hordered, hnot⟩ := h.ordered hne
  have hcurrent := (hordered.isRoute current (by simp)).2.1
  rcases h.frontier hne hother with ⟨hmem, -⟩ | ⟨v, hv, begun, added, rfl, hbegun, hle⟩
  · exact absurd (List.mem_append_left _ hmem) hnot
  · -- The target is not in the queue, so the route goes on from there.
    have hadded : added ≠ [] := by
      rintro rfl
      have hend : some v = some target := by
        rw [← hbegun.2.1, ← hother.2.1, List.append_nil]
      exact hnot (List.mem_append_right _ (Option.some.inj hend ▸ hv))
    obtain ⟨next, rest, rfl⟩ := List.exists_cons_of_ne_nil hadded
    have hwhole : rank edges (begun ++ [next]) ≤ rank edges (begun ++ next :: rest) := by
      rw [List.append_cons begun next rest]
      exact rank_le_append rest
    rcases List.mem_cons.mp hv with rfl | hv
    · rcases eq_or_ne next target with rfl | hnext
      · exact (rank_concat_le_concat hcurrent hbegun.2.1 hle next).trans hwhole
      · have hrest : rest ≠ [] := by
          rintro rfl
          have hend := hother.2.1
          rw [List.getLast?_concat] at hend
          exact hnext (Option.some.inj hend)
        have hlength := length_le_of_rank_le hle
        have hpos := List.length_pos_of_ne_nil hrest
        refine (rank_lt_iff.mpr (.inl ?_)).le
        simp only [List.length_append, List.length_cons, List.length_nil]
        omega
    · have hlower : rank edges (routeTo parents current) < rank edges (routeTo parents v) := by
        have := (List.pairwise_append.mp hordered.increasing).2.1
        exact (List.pairwise_cons.mp this).1 v hv
      have hlower' := rank_concat_lt_concat hcurrent hbegun.2.1 (hlower.trans_le hle) target next
      exact hlower'.le.trans hwhole

theorem find?_cases (hne : source ≠ target) :
    (∃ expanded parents current waiting,
        Passes edges source target expanded parents (current :: waiting) ∧
        (current, target) ∈ edges ∧
        find? edges source target = some (routeTo parents current ++ [target])) ∨
      (∃ expanded parents, Passes edges source target expanded parents []) ∧
        find? edges source target = none := by
  have hleft : edges = edgesLeft edges [] := by simp [edgesLeft]
  have hstops := stops_search hne Passes.start hleft
  rw [find?, if_neg hne]
  generalize search source target edges [] [source] = outcome at hstops
  cases hstops with
  | @found expanded parents found current waiting hpasses hrun =>
      have hcurrent : isDiscovered source parents current :=
        ((hpasses.ordered hne).1.isDiscovered_iff current).mpr (by simp)
      obtain ⟨hend, hroute⟩ := routeTo_of_expand_reached hcurrent hrun
      refine .inl ⟨expanded, parents, current, waiting, hpasses, ?_, ?_⟩
      · obtain ⟨edge, hedge, rfl⟩ := List.mem_map.mp hend
        obtain ⟨hmem, hfrom⟩ := List.mem_filter.mp hedge
        rwa [← of_decide_eq_true hfrom]
      · exact congrArg some hroute
  | exhausted hpasses => exact .inr ⟨⟨_, _, hpasses⟩, rfl⟩

/-- What is found is a route, and none is lower. -/
theorem least_of_find? {path : List α} (h : find? edges source target = some path) :
    IsRoute edges source target path ∧
      ∀ other, IsRoute edges source target other → rank edges path ≤ rank edges other := by
  by_cases hne : source = target
  · subst hne
    obtain rfl : [source] = path := by simpa [find?] using h
    refine ⟨isRoute_singleton edges source, fun other hother => ?_⟩
    rw [← List.cons_head?_tail hother.1]
    exact rank_le_append other.tail
  · rcases @find?_cases α _ edges _ _ hne with
      ⟨expanded, parents, current, waiting, hpasses, hedge, hfind⟩ | ⟨-, hfind⟩
    · obtain rfl : routeTo parents current ++ [target] = path := by simpa [hfind] using h
      have hroute := (hpasses.ordered hne).1.isRoute current (by simp)
      exact ⟨hroute.concat hedge, fun other hother => hpasses.rank_le hne hother⟩
    · simp [hfind] at h

theorem not_isRoute_of_find? (h : find? edges source target = none) (path : List α) :
    ¬ IsRoute edges source target path := by
  intro hpath
  by_cases hne : source = target
  · simp [find?, hne] at h
  · rcases @find?_cases α _ edges _ _ hne with
      ⟨_, _, _, _, _, _, hfind⟩ | ⟨⟨expanded, parents, hpasses⟩, -⟩
    · simp [hfind] at h
    · rcases hpasses.frontier hne hpath with ⟨hmem, -⟩ | ⟨v, hv, -⟩
      · exact (hpasses.ordered hne).2 (List.mem_append_left _ hmem)
      · simp at hv

/-- A route is found exactly when the target can be reached. It is a shortest one, and the vertex
alone when it leads from a vertex to itself. -/
theorem find?_shortest (edges : List (α × α)) (source target : α) :
    ((find? edges source target).isSome ↔
      Relation.ReflTransGen (fun u v => (u, v) ∈ edges) source target) ∧
    (∀ path, find? edges source target = some path → IsRoute edges source target path ∧
      ∀ other, IsRoute edges source target other → path.length ≤ other.length) ∧
    find? edges source source = some [source] := by
  refine ⟨?_, ?_, by simp [find?]⟩
  · rw [reachable_iff_exists_isRoute]
    constructor
    · intro h
      obtain ⟨path, hfind⟩ := Option.isSome_iff_exists.mp h
      exact ⟨path, (least_of_find? hfind).1⟩
    · intro h
      obtain ⟨path, hpath⟩ := h
      cases hfind : find? edges source target with
      | some found => rfl
      | none => exact absurd hpath (not_isRoute_of_find? hfind path)
  · intro path hfind
    obtain ⟨hroute, hleast⟩ := least_of_find? hfind
    exact ⟨hroute, fun other hother => length_le_of_rank_le (hleast other hother)⟩

/-! ### The first of the shortest routes -/

theorem exists_find?_of_isRoute {path : List α} (h : IsRoute edges source target path) :
    ∃ found, find? edges source target = some found := by
  cases hfind : find? edges source target with
  | none => exact absurd h (not_isRoute_of_find? hfind path)
  | some found => exact ⟨found, rfl⟩

/-- A shortest route that takes the earliest edges: every other one of its length takes, at the hop
where they part, an edge that comes first at a later position. -/
structure IsFirst (edges : List (α × α)) (source target : α) (path : List α) : Prop where
  isRoute : IsRoute edges source target path
  length_le : ∀ other, IsRoute edges source target other → path.length ≤ other.length
  positions_lt : ∀ other, IsRoute edges source target other → other.length = path.length →
    other ≠ path → List.Lex (· < ·) (positions edges path) (positions edges other)

theorem isFirst_of_find? {path : List α} (h : find? edges source target = some path) :
    IsFirst edges source target path := by
  obtain ⟨hroute, hleast⟩ := least_of_find? h
  refine ⟨hroute, fun other hother => length_le_of_rank_le (hleast other hother), ?_⟩
  intro other hother hlength hne
  have hlt : rank edges path < rank edges other := by
    refine (hleast other hother).lt_of_ne fun heq => hne ?_
    exact (hroute.eq_of_rank_eq hother heq).symm
  rcases rank_lt_iff.mp hlt with hshort | ⟨-, hpositions⟩
  · exact absurd hlength hshort.ne'
  · exact hpositions

theorem IsFirst.unique {path other : List α} (hpath : IsFirst edges source target path)
    (hother : IsFirst edges source target other) : other = path := by
  have hlength : other.length = path.length :=
    Nat.le_antisymm (hother.length_le path hpath.isRoute) (hpath.length_le other hother.isRoute)
  by_contra hne
  have hlt : positions edges path < positions edges other :=
    hpath.positions_lt other hother.isRoute hlength hne
  have hgt : positions edges other < positions edges path :=
    hother.positions_lt path hpath.isRoute hlength.symm (Ne.symm hne)
  exact lt_asymm hlt hgt

/-- If there is a route at all, one is found, and the route that is found is the one among the
shortest whose hops stand at the lexicographically least positions. -/
theorem find?_first_of_shortest (edges : List (α × α)) (source target : α) :
    ((find? edges source target).isSome ↔ ∃ path, IsRoute edges source target path) ∧
    ∀ path, find? edges source target = some path ↔ IsFirst edges source target path := by
  refine ⟨⟨?_, ?_⟩, fun path => ⟨isFirst_of_find?, ?_⟩⟩
  · intro h
    obtain ⟨path, hfind⟩ := Option.isSome_iff_exists.mp h
    exact ⟨path, (isFirst_of_find? hfind).isRoute⟩
  · intro h
    obtain ⟨path, hpath⟩ := h
    exact Option.isSome_iff_exists.mpr (exists_find?_of_isRoute hpath)
  · intro hfirst
    obtain ⟨found, hfind⟩ := exists_find?_of_isRoute hfirst.isRoute
    rw [hfind, hfirst.unique (isFirst_of_find? hfind)]

/-! ### Further edges -/

/-- Another list of vertices goes along with the first up to some hop, takes an earlier edge there,
and goes over one of the further edges later. -/
def Detours (edges more : List (α × α)) (path other : List α) : Prop :=
  ∃ shared hop hop' rest rest',
    hops path = shared ++ hop :: rest ∧ hops other = shared ++ hop' :: rest' ∧
    hop' ∈ edges ∧ edges.idxOf hop' < edges.idxOf hop ∧ ∃ new ∈ rest', new ∈ more ∧ new ∉ edges

/-- Lists of one length of which the first has the lower values part at a lower value. -/
theorem exists_split_of_map_lt {β : Type} {f : β → Nat} {xs ys : List β}
    (hlength : xs.length = ys.length) (hinj : ∀ x ∈ xs, ∀ y ∈ ys, f x = f y → x = y)
    (hlt : xs.map f < ys.map f) :
    ∃ shared x y xs' ys', xs = shared ++ x :: xs' ∧ ys = shared ++ y :: ys' ∧ f x < f y := by
  induction xs generalizing ys with
  | nil =>
      obtain rfl : ys = [] := List.eq_nil_of_length_eq_zero hlength.symm
      exact absurd hlt (lt_irrefl _)
  | cons x xs ih =>
      cases ys with
      | nil => simp at hlength
      | cons y ys =>
          rw [List.map_cons, List.map_cons, List.cons_lt_cons_iff] at hlt
          rcases hlt with hxy | ⟨hxy, htail⟩
          · exact ⟨[], x, y, xs, ys, rfl, rfl, hxy⟩
          · obtain rfl : x = y := hinj x (by simp) y (by simp) hxy
            obtain ⟨shared, x', y', xs', ys', rfl, rfl, hlt'⟩ :=
              ih (Nat.succ.inj hlength)
                (fun a ha b hb => hinj a (by simp [ha]) b (by simp [hb])) htail
            exact ⟨x :: shared, x', y', xs', ys', rfl, rfl, hlt'⟩

/-- A route of the same length that is lower with further edges, and not lower without, makes a
detour over one of them. -/
theorem detours_of_rank_lt {more : List (α × α)} {path other : List α}
    (hpath : IsRoute edges source target path)
    (hleast : ∀ route, IsRoute edges source target route → rank edges path ≤ rank edges route)
    (hother : IsRoute (edges ++ more) source target other)
    (hlt : rank (edges ++ more) other < rank (edges ++ more) path)
    (hlength : other.length = path.length) : Detours edges more path other := by
  have hpositions : positions (edges ++ more) other < positions (edges ++ more) path := by
    rcases rank_lt_iff.mp hlt with hshort | ⟨-, hpositions⟩
    · omega
    · exact hpositions
  have hhops : (hops other).length = (hops path).length := by
    rw [length_hops, length_hops, hlength]
  obtain ⟨shared, hop', hop, rest', rest, heq', heq, hearlier⟩ :=
    exists_split_of_map_lt hhops
      (fun x hx _ _ h => (List.idxOf_inj (hother.hops_subset hx)).mp h) hpositions
  have hsub : shared ++ hop :: rest ⊆ edges := heq ▸ hpath.hops_subset
  have hhop : hop ∈ edges := hsub (by simp)
  rw [List.idxOf_append_of_mem hhop] at hearlier
  have hhop' : hop' ∈ edges := by
    by_contra hnot
    rw [List.idxOf_append_of_notMem hnot] at hearlier
    have := List.idxOf_lt_length_of_mem hhop
    omega
  rw [List.idxOf_append_of_mem hhop'] at hearlier
  refine ⟨shared, hop, hop', rest, rest', heq, heq', hhop', hearlier, ?_⟩
  -- Otherwise the lower route is one over the first edges alone.
  by_contra hnone
  push Not at hnone
  have hwithin : hops other ⊆ edges := by
    intro x hx
    have hall := hother.hops_subset hx
    rw [heq', List.mem_append, List.mem_cons] at hx
    rcases hx with hx | rfl | hx
    · exact hsub (List.mem_append_left _ hx)
    · exact hhop'
    · exact (List.mem_append.mp hall).elim id (hnone x hx)
  have hother' := hother.of_hops_subset hwithin
  have hle := hleast other hother'
  rw [rank, rank, hother'.positions_append, hpath.positions_append] at hlt
  exact absurd hle (not_le.mpr hlt)

/-- With further edges behind the others the same route is found, or a shorter one, or one of the
same length that takes an earlier edge first and one of the further edges later. -/
theorem find?_append_edges (more : List (α × α)) {path : List α}
    (h : find? edges source target = some path) :
    ∃ other, find? (edges ++ more) source target = some other ∧
      (other = path ∨ other.length < path.length ∨
        other.length = path.length ∧ Detours edges more path other) := by
  obtain ⟨hpath, hleast⟩ := least_of_find? h
  have hpath' := hpath.mono (List.subset_append_left edges more)
  cases hfind : find? (edges ++ more) source target with
  | none => exact absurd hpath' (not_isRoute_of_find? hfind path)
  | some other =>
      obtain ⟨hother, hleast'⟩ := least_of_find? hfind
      refine ⟨other, rfl, ?_⟩
      rcases (hleast' path hpath').lt_or_eq with hlt | heq
      · rcases (length_le_of_rank_le hlt.le).lt_or_eq with hshort | hlength
        · exact .inr (.inl hshort)
        · exact .inr (.inr ⟨hlength, detours_of_rank_lt hpath hleast hother hlt hlength⟩)
      · exact .inl (hother.eq_of_rank_eq hpath' heq)

theorem find?_append_edges_square :
    find? [(0, 1), (0, 2), (2, 3)] 0 3 = some [0, 2, 3] ∧
      ∃ other, find? ([(0, 1), (0, 2), (2, 3)] ++ [(1, 3)]) 0 3 = some other ∧
        (other = [0, 2, 3] ∨ other.length < [0, 2, 3].length ∨
          other.length = [0, 2, 3].length ∧
            Detours [(0, 1), (0, 2), (2, 3)] [(1, 3)] [0, 2, 3] other) :=
  have h : find? [(0, 1), (0, 2), (2, 3)] 0 3 = some [0, 2, 3] := by decide +kernel
  ⟨h, find?_append_edges [(1, 3)] h⟩

/-- The detour is made: an earlier edge leads to where one further edge does the rest. -/
theorem not_find?_append_same_or_shorter :
    ¬ ∀ (edges more : List (Nat × Nat)) (source target : Nat) (path : List Nat),
      find? edges source target = some path →
        find? (edges ++ more) source target = some path ∨
          ∃ other, find? (edges ++ more) source target = some other ∧
            other.length < path.length := by
  intro h
  have hbefore : find? [(0, 1), (0, 2), (2, 3)] 0 3 = some [0, 2, 3] := by decide +kernel
  have hafter : find? ([(0, 1), (0, 2), (2, 3)] ++ [(1, 3)]) 0 3 = some [0, 1, 3] := by
    decide +kernel
  rcases h _ [(1, 3)] 0 3 _ hbefore with hsame | ⟨other, hother, hshort⟩
  · rw [hafter] at hsame
    simp at hsame
  · rw [hafter, Option.some.injEq] at hother
    subst hother
    simp at hshort

end DocBridge.Route

import DocBridge.Proofs.Route.Parents

/-!
# A search step by step

A search takes a vertex from the queue and tries the edges that leave it one after the other, over
all edges and with nothing to bound it. It ends all the same: no vertex is put into the queue twice,
so that no edge is tried twice, and the steps can be counted. A search that drops the edges of
expanded vertices comes to the same end.

What one step keeps is `Holds`, and everything said of a whole search is read off it.
-/

namespace DocBridge.Route

variable {α : Type} [DecidableEq α]

/-- Where a search stands: the vertices taken from the queue so far, the edges of the latest of them
that are still to be tried, the parents, and the queue. -/
structure Stage (α : Type) where
  expanded : List α
  ahead : List (α × α)
  parents : Parents α
  queue : List α

/-- What a search does next, unless it is at its end. -/
inductive Step (edges : List (α × α)) (source target : α) : Stage α → Stage α → Prop
  | take {expanded : List α} {parents : Parents α} {current : α} {waiting : List α} :
      Step edges source target ⟨expanded, [], parents, current :: waiting⟩
        ⟨expanded ++ [current], edges.filter fun edge => edge.1 = current, parents, waiting⟩
  | skip {expanded : List α} {ahead : List (α × α)} {parents : Parents α} {queue : List α}
      {current next : α} :
      isDiscovered source parents next →
      Step edges source target ⟨expanded, (current, next) :: ahead, parents, queue⟩
        ⟨expanded, ahead, parents, queue⟩
  | discover {expanded : List α} {ahead : List (α × α)} {parents : Parents α} {queue : List α}
      {current next : α} :
      ¬ isDiscovered source parents next → next ≠ target →
      Step edges source target ⟨expanded, (current, next) :: ahead, parents, queue⟩
        ⟨expanded, ahead, (next, current) :: parents, queue ++ [next]⟩

/-- The ends of a search: nothing is left to try, or the target is discovered. -/
inductive Stage.Ends (source target : α) : Stage α → Option (Parents α) → Prop
  | exhausted {expanded : List α} {parents : Parents α} :
      Ends source target ⟨expanded, [], parents, []⟩ none
  | reached {expanded : List α} {ahead : List (α × α)} {parents : Parents α} {queue : List α}
      {current : α} :
      ¬ isDiscovered source parents target →
      Ends source target ⟨expanded, (current, target) :: ahead, parents, queue⟩
        (some ((target, current) :: parents))

/-- Where a search can be after a number of steps. -/
inductive Run (edges : List (α × α)) (source target : α) : Nat → Stage α → Prop
  | start : Run edges source target 0 ⟨[], [], [], [source]⟩
  | step {n : Nat} {stage later : Stage α} :
      Run edges source target n stage → Step edges source target stage later →
      Run edges source target (n + 1) later

variable {edges : List (α × α)} {source target : α} {n : Nat} {stage later : Stage α}

/-- A search goes on in one way until it ends. -/
theorem ends_or_step (edges : List (α × α)) (source target : α) (stage : Stage α) :
    (∃ outcome, stage.Ends source target outcome) ∧
        (∀ later, ¬ Step edges source target stage later) ∨
      ∃! later, Step edges source target stage later := by
  obtain ⟨expanded, ahead, parents, queue⟩ := stage
  cases ahead with
  | nil =>
      cases queue with
      | nil => exact .inl ⟨⟨none, .exhausted⟩, fun later h => by cases h⟩
      | cons current waiting => exact .inr ⟨_, .take, fun later h => by cases h; rfl⟩
  | cons edge ahead =>
      obtain ⟨current, next⟩ := edge
      by_cases hnext : isDiscovered source parents next
      · refine .inr ⟨_, .skip hnext, fun later h => ?_⟩
        cases h with
        | skip => rfl
        | discover hnew => exact absurd hnext hnew
      · by_cases htarget : next = target
        · subst htarget
          refine .inl ⟨⟨_, .reached hnext⟩, fun later h => ?_⟩
          cases h with
          | skip hold => exact hnext hold
          | discover _ hne => exact hne rfl
        · refine .inr ⟨_, .discover hnext htarget, fun later h => ?_⟩
          cases h with
          | skip hold => exact absurd hold hnext
          | discover => rfl

/-! ### What a step keeps -/

/-- The vertices put into the queue are those discovered, in this order, and each step is for one
edge or one vertex. -/
structure Holds (edges : List (α × α)) (source : α) (n : Nat) (stage : Stage α) : Prop where
  rooted : Rooted source stage.parents
  append_eq : stage.expanded ++ stage.queue = visited source stage.parents
  mem_edges : ∀ entry ∈ stage.parents, (entry.2, entry.1) ∈ edges
  mem_ahead : ∀ edge ∈ stage.ahead, edge ∈ edges ∧ edge.1 ∈ stage.expanded
  count : n + stage.ahead.length + (edgesLeft edges stage.expanded).length =
    stage.expanded.length + edges.length

theorem Holds.step (h : Holds edges source n stage) (hstep : Step edges source target stage later) :
    Holds edges source (n + 1) later := by
  cases hstep with
  | @take expanded parents current waiting =>
      have hnodup := h.append_eq ▸ h.rooted.nodup_visited
      have hcurrent : current ∉ expanded := fun hmem =>
        (List.nodup_append.mp hnodup).2.2 current hmem current (by simp) rfl
      refine ⟨h.rooted, ?_, h.mem_edges, ?_, ?_⟩
      · rw [← h.append_eq, List.append_assoc]
        rfl
      · intro edge hedge
        obtain ⟨hmem, hfrom⟩ := List.mem_filter.mp hedge
        exact ⟨hmem, List.mem_append_right _ (by simpa using hfrom)⟩
      · have hcount := h.count
        have hsplit := length_endsFrom_add (edgesLeft edges expanded) current
        rw [endsFrom_edgesLeft hcurrent, edgesApart_edgesLeft, endsFrom, List.length_map] at hsplit
        simp only [List.length_append, List.length_nil, List.length_cons] at hcount ⊢
        omega
  | skip =>
      refine ⟨h.rooted, h.append_eq, h.mem_edges, (List.forall_mem_cons.mp h.mem_ahead).2, ?_⟩
      have hcount := h.count
      simp only [List.length_cons] at hcount ⊢
      omega
  | @discover expanded ahead parents queue current next hnext _ =>
      obtain ⟨hedge, hahead⟩ := List.forall_mem_cons.mp h.mem_ahead
      have hcurrent : isDiscovered source parents current := by
        rw [← mem_visited_iff, ← h.append_eq]
        exact List.mem_append_left _ hedge.2
      refine ⟨h.rooted.cons hcurrent hnext, ?_, ?_, hahead, ?_⟩
      · rw [visited_cons, ← h.append_eq, List.append_assoc]
      · exact List.forall_mem_cons.mpr ⟨hedge.1, h.mem_edges⟩
      · have hcount := h.count
        simp only [List.length_cons] at hcount ⊢
        omega

theorem Run.holds (h : Run edges source target n stage) : Holds edges source n stage := by
  induction h with
  | start => exact ⟨.nil, rfl, by simp, by simp, by simp [edgesLeft]⟩
  | step _ hstep ih => exact ih.step hstep

/-- Each vertex but the source is discovered over an edge of its own. -/
theorem Holds.length_parents_le (h : Holds edges source n stage) :
    stage.parents.length ≤ edges.length := by
  have hnodup : (stage.parents.map (·.1)).Nodup :=
    List.nodup_reverse.mp (List.nodup_cons.mp h.rooted.nodup_visited).2
  have hsub : stage.parents.map Prod.swap ⊆ edges := by
    intro edge hedge
    obtain ⟨entry, hentry, rfl⟩ := List.mem_map.mp hedge
    exact h.mem_edges entry hentry
  rw [← List.length_map Prod.swap]
  exact ((hnodup.of_map _).map Prod.swap_injective).length_le_of_subset hsub

/-- A search takes one step for each edge and one for each vertex at most. -/
theorem Holds.count_le (h : Holds edges source n stage) : n ≤ 2 * edges.length + 1 := by
  have hcount := h.count
  have hexpanded := congrArg List.length h.append_eq
  rw [List.length_append, length_visited] at hexpanded
  have := h.length_parents_le
  omega

theorem Holds.rooted_of_ends (h : Holds edges source n stage) {found : Parents α}
    (hends : stage.Ends source target (some found)) : Rooted source found := by
  cases hends with
  | reached htarget =>
      obtain ⟨-, hcurrent⟩ := h.mem_ahead _ List.mem_cons_self
      refine h.rooted.cons ?_ htarget
      rw [← mem_visited_iff, ← h.append_eq]
      exact List.mem_append_left _ hcurrent

/-! ### The end that is found -/

/-- Trying the edges of a vertex in steps comes to what expanding it gives. -/
theorem Run.expand {expanded queue : List α} {ahead : List (α × α)} {parents : Parents α}
    (h : Run edges source target n ⟨expanded, ahead, parents, queue⟩) (current : α)
    (hahead : ∀ edge ∈ ahead, edge.1 = current) :
    match Route.expand source target current parents (ahead.map (·.2)) with
    | .explored later discovered =>
        ∃ m, Run edges source target m ⟨expanded, [], later, queue ++ discovered⟩
    | .reached found =>
        ∃ m stage, Run edges source target m stage ∧ stage.Ends source target (some found) := by
  induction ahead generalizing n parents queue with
  | nil => exact ⟨n, by simpa using h⟩
  | cons edge ahead ih =>
      obtain ⟨u, next⟩ := edge
      obtain ⟨rfl, hahead⟩ := List.forall_mem_cons.mp hahead
      rw [List.map_cons, Route.expand]
      by_cases hnext : isDiscovered source parents next
      · rw [if_pos hnext]
        exact ih (h.step (.skip hnext)) hahead
      · rw [if_neg hnext]
        by_cases htarget : next = target
        · subst htarget
          simp only [if_true]
          exact ⟨n, _, h, .reached hnext⟩
        · have hrest := ih (h.step (.discover hnext htarget)) hahead
          simp only [if_neg htarget]
          generalize Route.expand source target u ((next, u) :: parents) (ahead.map (·.2)) =
            expansion at hrest ⊢
          cases expansion with
          | reached found => exact hrest
          | explored later discovered =>
              obtain ⟨m, hm⟩ := hrest
              exact ⟨m, by rwa [List.append_assoc] at hm⟩

theorem Passes.exists_run {expanded queue : List α} {parents : Parents α}
    (h : Passes edges source target expanded parents queue) :
    ∃ n, Run edges source target n ⟨expanded, [], parents, queue⟩ := by
  induction h with
  | start => exact ⟨0, .start⟩
  | @step expanded parents later current waiting discovered _ hrun ih =>
      obtain ⟨n, hn⟩ := ih
      have hexpand := (hn.step .take).expand current (by simp)
      rw [← endsFrom, hrun] at hexpand
      exact hexpand

theorem exists_run_ends (edges : List (α × α)) (hne : source ≠ target) :
    ∃ n stage, Run edges source target n stage ∧
      stage.Ends source target (search source target edges [] [source]) := by
  have hleft : edges = edgesLeft edges [] := by simp [edgesLeft]
  have hstops := stops_search hne Passes.start hleft
  generalize search source target edges [] [source] = outcome at hstops ⊢
  cases hstops with
  | @found expanded parents found current waiting hpasses hrun =>
      obtain ⟨n, hn⟩ := hpasses.exists_run
      have hexpand := (hn.step .take).expand current (by simp)
      rw [← endsFrom, hrun] at hexpand
      exact hexpand
  | exhausted hpasses =>
      obtain ⟨n, hn⟩ := hpasses.exists_run
      exact ⟨n, _, hn, .exhausted⟩

/-- A search ends, after one step for each edge and each vertex at most: until then there is one way
to go on. What has been in the queue, the vertices taken from it and those waiting, are the vertices
discovered, none of them twice. The parents lead back from each of them to the source, also when the
target is among them and its way back is what is found. -/
theorem search_terminates (edges : List (α × α)) (source target : α) :
    (∀ n stage, Run edges source target n stage →
      n ≤ 2 * edges.length + 1 ∧
      ((∃ outcome, stage.Ends source target outcome) ∧
          (∀ later, ¬ Step edges source target stage later) ∨
        ∃! later, Step edges source target stage later) ∧
      (stage.expanded ++ stage.queue).Nodup ∧
      stage.expanded ++ stage.queue = visited source stage.parents ∧
      LeadsBack source stage.parents ∧
      ∀ found, stage.Ends source target (some found) → LeadsBack source found) ∧
    (source = target ∧ find? edges source target = some [source] ∨
      source ≠ target ∧ ∃ n stage outcome, Run edges source target n stage ∧
        stage.Ends source target outcome ∧ find? edges source target =
          outcome.map fun parents => (trace parents target).reverse) := by
  constructor
  · intro n stage hrun
    have hholds := hrun.holds
    have hnodup := hholds.append_eq ▸ hholds.rooted.nodup_visited
    exact ⟨hholds.count_le, ends_or_step edges source target stage, hnodup, hholds.append_eq,
      hholds.rooted.leadsBack, fun found hends => (hholds.rooted_of_ends hends).leadsBack⟩
  · rcases eq_or_ne source target with heq | hne
    · exact .inl ⟨heq, by rw [find?, if_pos heq]⟩
    · obtain ⟨n, stage, hrun, hends⟩ := exists_run_ends edges hne
      exact .inr ⟨hne, n, stage, _, hrun, hends, by rw [find?, if_neg hne]⟩

end DocBridge.Route

/-!
# Shortest routes

A route from one vertex to another is looked for breadth first over a list of edges. Edges are tried
in the order of the list, so of several shortest routes the one over earlier edges is found.

The search keeps for each vertex it has discovered the vertex it was discovered from, and a queue of
those not expanded yet. A vertex is discovered once and expanded once; its edges are dropped when it
is expanded, so edges and queue together shrink with every expansion.
-/

namespace DocBridge.Route

variable {α : Type} [DecidableEq α]

/-- What each discovered vertex was discovered from, the latest first. -/
abbrev Parents (α : Type) := List (α × α)

def isDiscovered (source : α) (parents : Parents α) (vertex : α) : Bool :=
  vertex = source || parents.any (·.1 = vertex)

/-- Where the edges that leave a vertex end. -/
def endsFrom (edges : List (α × α)) (vertex : α) : List α :=
  (edges.filter fun edge => edge.1 = vertex).map (·.2)

/-- The edges that do not leave a vertex. -/
def edgesApart (edges : List (α × α)) (vertex : α) : List (α × α) :=
  edges.filter fun edge => ¬ edge.1 = vertex

theorem length_endsFrom_add (edges : List (α × α)) (vertex : α) :
    (endsFrom edges vertex).length + (edgesApart edges vertex).length = edges.length := by
  induction edges with
  | nil => rfl
  | cons edge rest ih =>
    simp only [endsFrom, edgesApart, List.length_map, decide_not] at ih ⊢
    by_cases h : edge.1 = vertex <;> simp [h] <;> omega

/-- The outcome of expanding a vertex. -/
inductive Expansion (α : Type) where
  | reached (parents : Parents α)
  | explored (parents : Parents α) (discovered : List α)

/-- Discovers the ends of the edges of a vertex, up to the target. -/
def expand (source target current : α) (parents : Parents α) : List α → Expansion α
  | [] => .explored parents []
  | next :: rest =>
    if isDiscovered source parents next then expand source target current parents rest
    else
      let parents := (next, current) :: parents
      if next = target then .reached parents
      else
        match expand source target current parents rest with
        | .reached parents => .reached parents
        | .explored parents discovered => .explored parents (next :: discovered)

theorem length_discovered_le {source target current : α} {ends : List α} {parents : Parents α}
    {parents' : Parents α} {discovered : List α}
    (h : expand source target current parents ends = .explored parents' discovered) :
    discovered.length ≤ ends.length := by
  induction ends generalizing parents parents' discovered with
  | nil => simp [expand] at h; simp [h]
  | cons next rest ih =>
    simp only [expand] at h
    split at h
    · exact Nat.le_succ_of_le (ih h)
    · split at h
      · simp at h
      · split at h
        · simp at h
        · next heq =>
          simp only [Expansion.explored.injEq] at h
          obtain ⟨rfl, rfl⟩ := h
          exact Nat.succ_le_succ (ih heq)

/-- The parents when the target is discovered; nothing when the queue runs empty before. -/
def search (source target : α) (edges : List (α × α)) (parents : Parents α) (queue : List α) :
    Option (Parents α) :=
  match queue with
  | [] => none
  | current :: waiting =>
    match _h : expand source target current parents (endsFrom edges current) with
    | .reached parents => some parents
    | .explored parents discovered =>
      search source target (edgesApart edges current) parents (waiting ++ discovered)
termination_by edges.length + queue.length
decreasing_by
  have := length_discovered_le _h
  have := length_endsFrom_add edges current
  simp only [List.length_append, List.length_cons]
  omega

/-- The way back from a vertex to the one that has no parent. -/
def trace : Parents α → α → List α
  | [], vertex => [vertex]
  | (child, parent) :: older, vertex =>
    if child = vertex then vertex :: trace older parent else trace older vertex

/-- The vertices of a shortest route, both ends included. -/
def find? (edges : List (α × α)) (source target : α) : Option (List α) :=
  if source = target then some [source]
  else (search source target edges [] [source]).map fun parents => (trace parents target).reverse

end DocBridge.Route

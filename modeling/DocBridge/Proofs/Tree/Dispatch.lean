import DocBridge.Markdown.Writer
import DocBridge.Proofs.Dictionary

/-!
# What a traversal dispatches

Handlers may do anything with a state of their own and may fail. Those considered here run the
children of their node once, and pass on the error when these fail. What such a handler does falls
into a part before the children, a part with their results, and what it does to the state when they
fail. A walk is a table of handlers that are given by these parts.

To say which handlers a walk runs, and on what, it is run once more with a record. The record is
kept where the handlers do not see it, and it is only added to: when a node is dispatched, and when
a part of a handler or the rule for text fails. What is proved is that the walk is the same with the
record, and that what is recorded are the nodes of the tree in document order, up to the first
failure.
-/

namespace DocBridge

/-- Computations with a state that is left behind when they fail. -/
abbrev Action (ε σ : Type) := EStateM ε σ

/-- What a handler does after it has run the children: with their results, or to the state when they
fail, before their error is passed on. -/
structure Ending (ε σ α : Type) where
  finish : List α → Action ε σ (Transformed α)
  failed : ε → σ → σ

/-- What a handler does before it runs the children. This settles what it does after them. -/
abbrev Visitor (ε σ α : Type) := Node → Siblings → Action ε σ (Ending ε σ α)

/-- What a handler is shown of the place of a node. -/
structure View where
  index : Nat
  count : Nat
  previous? : Option Child
  next? : Option Child

def Siblings.view (s : Siblings) : View := ⟨s.index, s.count, s.previous?, s.next?⟩

/-- What is recorded of a walk. -/
inductive Event (ε σ α : Type) where
  | dispatched (visitor : Visitor ε σ α) (node : Node) (view : View)
  | failed (error : ε)

/-- The state of a walk that is recorded. -/
abbrev Recorded (ε σ α : Type) := σ × List (Event ε σ α)

/-- Handlers that run the children of their node once. -/
structure Walk (ε σ α : Type) where
  bindings : List (String × Visitor ε σ α)
  fallback : Visitor ε σ α
  text : String → Action ε σ (Transformed α)

variable {ε σ α β γ : Type}

/-! ### Computations and their record -/

namespace Action

/-- What a computation gives from a state, and the state it leaves. -/
def outcome (a : Action ε σ β) (s : σ) : Except ε β × σ :=
  match a.run s with
  | .ok b t => (.ok b, t)
  | .error e t => (.error e, t)

/-- The computation, with a change of the state when it fails. The error stays what it is. -/
def onFailure (a : Action ε σ β) (change : ε → σ → σ) : Action ε σ β :=
  tryCatch a fun e => do
    modify (change e)
    throw e

def record (event : Event ε σ α) : Action ε (Recorded ε σ α) Unit :=
  modify fun (s, log) => (s, log ++ [event])

/-- The computation, with a record of its failure. -/
def recorded (a : Action ε σ β) : Action ε (Recorded ε σ α) β := fun (s, log) =>
  match a.run s with
  | .ok b t => .ok b (t, log)
  | .error e t => .error e (t, log ++ [.failed e])

theorem outcome_pure (b : β) (s : σ) : outcome (pure b : Action ε σ β) s = (.ok b, s) := rfl

theorem outcome_bind (a : Action ε σ β) (f : β → Action ε σ γ) (s : σ) :
    outcome (a >>= f) s = match a.outcome s with
      | (.ok b, t) => (f b).outcome t
      | (.error e, t) => (.error e, t) := by
  simp only [outcome, EStateM.run_bind]
  cases a.run s <;> rfl

theorem run_onFailure (a : Action ε σ β) (change : ε → σ → σ) (s : σ) :
    (a.onFailure change).run s = match a.run s with
      | .ok b t => .ok b t
      | .error e t => .error e (change e t) := by
  simp only [onFailure, EStateM.run, tryCatch, tryCatchThe, MonadExceptOf.tryCatch,
    EStateM.tryCatch]
  cases a s <;> rfl

theorem outcome_onFailure (a : Action ε σ β) (change : ε → σ → σ) (s : σ) :
    outcome (a.onFailure change) s = match a.outcome s with
      | (.ok b, t) => (.ok b, t)
      | (.error e, t) => (.error e, change e t) := by
  simp only [outcome, run_onFailure]
  cases a.run s <;> rfl

/-- Of some events, a record has all when a computation succeeds, and those up to its failure when
it fails. -/
def Told (events record : List (Event ε σ α)) : Except ε β → Prop
  | .ok _ => record = events
  | .error e => ∃ done, done <+: events ∧ record = done ++ [.failed e]

/-- A computation with a record does what another does without, and the record tells the events. -/
def Records (events : List (Event ε σ α)) (a : Action ε (Recorded ε σ α) β)
    (plain : Action ε σ β) : Prop :=
  ∀ s log, ∃ added, a.outcome (s, log) =
      ((plain.outcome s).1, ((plain.outcome s).2, log ++ added)) ∧
    Told events added (plain.outcome s).1

variable {events later : List (Event ε σ α)} {a : Action ε (Recorded ε σ α) β}
  {plain : Action ε σ β}

theorem Told.append {added : List (Event ε σ α)} {result : Except ε γ}
    (h : Told later added result) (events : List (Event ε σ α)) :
    Told (events ++ later) (events ++ added) result := by
  cases result with
  | ok _ => exact congrArg (events ++ ·) h
  | error e =>
      obtain ⟨done, hdone, rfl⟩ := h
      exact ⟨events ++ done, (List.prefix_append_right_inj events).mpr hdone,
        (List.append_assoc ..).symm⟩

theorem records_pure (b : β) : Records (α := α) [] (pure b) (pure b : Action ε σ β) := by
  intro s log
  exact ⟨[], by rw [outcome_pure, outcome_pure, List.append_nil], rfl⟩

theorem records_recorded (plain : Action ε σ β) : Records (α := α) [] (recorded plain) plain := by
  intro s log
  have hrun : (recorded (α := α) plain).run (s, log) = match plain.run s with
      | .ok b t => .ok b (t, log)
      | .error e t => .error e (t, log ++ [.failed e]) := rfl
  simp only [outcome, hrun]
  cases plain.run s with
  | ok b t => exact ⟨[], by rw [List.append_nil], rfl⟩
  | error e t => exact ⟨[.failed e], rfl, [], List.nil_prefix, rfl⟩

theorem Records.bind {f : β → Action ε (Recorded ε σ α) γ} {g : β → Action ε σ γ}
    (h : Records events a plain) (hf : ∀ b, Records later (f b) (g b)) :
    Records (events ++ later) (a >>= f) (plain >>= g) := by
  intro s log
  obtain ⟨added, ha, htold⟩ := h s log
  rw [outcome_bind, outcome_bind, ha]
  generalize plain.outcome s = result at htold ⊢
  obtain ⟨e | b, t⟩ := result
  -- After a failure nothing of the second computation is run, and nothing of it is recorded.
  · obtain ⟨done, hdone, rfl⟩ := htold
    exact ⟨_, rfl, done, hdone.trans (List.prefix_append events later), rfl⟩
  · obtain rfl : added = events := htold
    obtain ⟨more, hfb, hmore⟩ := hf b t (log ++ added)
    refine ⟨added ++ more, ?_, hmore.append added⟩
    rw [← List.append_assoc]
    exact hfb

/-- A change of the state leaves the record alone. -/
theorem Records.onFailure (h : Records events a plain) (change : ε → σ → σ) :
    Records events (a.onFailure fun e (s, log) => (change e s, log)) (plain.onFailure change) := by
  intro s log
  obtain ⟨added, ha, htold⟩ := h s log
  rw [outcome_onFailure, outcome_onFailure, ha]
  generalize plain.outcome s = result at htold ⊢
  obtain ⟨e | b, t⟩ := result
  · exact ⟨added, rfl, htold⟩
  · exact ⟨added, rfl, htold⟩

theorem Records.after_record (h : Records events a plain) (event : Event ε σ α) :
    Records (event :: events) (record event >>= fun _ => a) plain := by
  intro s log
  obtain ⟨added, ha, htold⟩ := h s (log ++ [event])
  refine ⟨event :: added, ?_, htold.append [event]⟩
  rw [List.append_cons]
  exact ha

end Action

/-! ### The walk and its record -/

namespace Visitor

/-- The children are run between the two parts. A failure of them is a failure of the handler. -/
def handler (v : Visitor ε σ α) : Handler (Action ε σ) α := fun n siblings children => do
  let ending ← v n siblings
  let results ← Action.onFailure children ending.failed
  ending.finish results

/-- The handler with a record of its node, and of its failure before or after the children. -/
def recordedHandler (v : Visitor ε σ α) : Handler (Action ε (Recorded ε σ α)) α :=
  fun n siblings children => do
    Action.record (.dispatched v n siblings.view)
    let ending ← Action.recorded (v n siblings)
    let results ← Action.onFailure children fun e (s, log) => (ending.failed e s, log)
    Action.recorded (ending.finish results)

theorem records_recordedHandler (v : Visitor ε σ α) (n : Node) (siblings : Siblings)
    {events : List (Event ε σ α)} {children : Action ε (Recorded ε σ α) (List α)}
    {plain : Action ε σ (List α)} (h : Action.Records events children plain) :
    Action.Records (.dispatched v n siblings.view :: events)
      (v.recordedHandler n siblings children) (v.handler n siblings plain) := by
  apply Action.Records.after_record
  have hparts := (Action.records_recorded (v n siblings)).bind fun ending =>
    (h.onFailure ending.failed).bind fun results => Action.records_recorded (ending.finish results)
  rwa [List.nil_append, List.append_nil] at hparts

end Visitor

namespace Markdown.Writer

/-- How a list is written. Its marker is taken off the stack also when its children fail. -/
def listVisitor (marker : Node → Marker) : Visitor Error (List Marker) String := fun n _ => do
  modify (marker n :: ·)
  return {
    finish := fun parts => do
      modify List.tail
      return .one (concat parts)
    failed := fun _ => List.tail }

theorem handler_listVisitor (marker : Node → Marker) :
    (listVisitor marker).handler = fun n _ children =>
      return .one (concat (← within (marker n) children)) := by
  funext n siblings children stack
  have hvisitor : (listVisitor marker).handler n siblings children = do
      modify (marker n :: ·)
      let parts ← Action.onFailure children fun _ => List.tail
      modify List.tail
      return .one (concat parts) := rfl
  rw [hvisitor]
  change EStateM.run _ stack = EStateM.run _ stack
  simp only [EStateM.run_bind, EStateM.run_modify, Action.run_onFailure, run_within]
  cases children.run (marker n :: stack) <;> rfl

/-- The handlers of lists are among those considered here. -/
theorem handler_list (bullet : Char) :
    handler bullet .bulletList = (listVisitor fun _ => .bullet bullet).handler ∧
      handler bullet .orderedList = (listVisitor .ofOrderedList).handler :=
  ⟨(handler_listVisitor _).symm, (handler_listVisitor _).symm⟩

end Markdown.Writer

/-! ### Nodes in document order -/

namespace Child

mutual

/-- The nodes, each with its place among the children of its parent, in document order. -/
def visits (view : View) : Child → List (Node × View)
  | text _ => []
  | node name attributes children => (⟨name, attributes, children⟩, view) :: visitsAfter [] children

/-- The nodes in the last children of a list that starts with some others. -/
def visitsAfter (before : List Child) : List Child → List (Node × View)
  | [] => []
  | c :: rest =>
    visits ⟨before.length, before.length + 1 + rest.length, before.getLast?, rest.head?⟩ c ++
      visitsAfter (before ++ [c]) rest

end

end Child

theorem Siblings.view_between (before rest : List Child) (c : Child) :
    Siblings.view ⟨before ++ c :: rest, before.length⟩ =
      ⟨before.length, before.length + 1 + rest.length, before.getLast?, rest.head?⟩ := by
  have hcount : (before ++ c :: rest).length = before.length + 1 + rest.length := by
    rw [List.length_append, List.length_cons, Nat.add_assoc, Nat.add_comm 1]
  have hprevious : Siblings.previous? ⟨before ++ c :: rest, before.length⟩ = before.getLast? := by
    rcases List.eq_nil_or_concat before with rfl | ⟨earlier, d, rfl⟩
    · rfl
    · simp [Siblings.previous?]
  have hnext : Siblings.next? ⟨before ++ c :: rest, before.length⟩ = rest.head? := by
    rw [Siblings.next?, List.getElem?_append_right (Nat.le_succ _), List.head?_eq_getElem?]
    simp
  rw [view, count, hcount, hprevious, hnext]

namespace Walk

/-- The handler of a kind is the one that was bound to it last. -/
def chosen (w : Walk ε σ α) (kind : String) : Visitor ε σ α :=
  (w.bindings.reverse.lookup kind).getD w.fallback

def traversal (w : Walk ε σ α) : Traversal (Action ε σ) α where
  handlers := .ofEntries (w.bindings.map fun binding => (binding.1, binding.2.handler))
  fallback := w.fallback.handler
  text := w.text

/-- The walk with a record of what is dispatched and of what fails. -/
def recording (w : Walk ε σ α) : Traversal (Action ε (Recorded ε σ α)) α where
  handlers := .ofEntries (w.bindings.map fun binding => (binding.1, binding.2.recordedHandler))
  fallback := w.fallback.recordedHandler
  text s := Action.recorded (w.text s)

def dispatched (w : Walk ε σ α) : Node × View → Event ε σ α
  | (n, view) => .dispatched (w.chosen n.name) n view

/-- All nodes of a tree in document order, each with the handler of its kind. -/
def dispatches (w : Walk ε σ α) (root : Node) : List (Event ε σ α) :=
  ((Child.ofNode root).visits ⟨0, 0, none, none⟩).map w.dispatched

variable (w : Walk ε σ α)

theorem find?_ofEntries_bindings {H : Type} (f : Visitor ε σ α → H) (kind : String) :
    let bound := Dictionary.ofEntries (w.bindings.map fun binding => (binding.1, f binding.2))
    (bound.find? kind).getD (f w.fallback) = f (w.chosen kind) := by
  intro bound
  have hlast : w.bindings.reverse.lookup kind =
      (w.bindings.reverse.find? (·.1 == kind)).map Prod.snd := by
    simpa using Dictionary.lookup_map Prod.fst Prod.snd kind w.bindings.reverse
  rw [Dictionary.find?_ofEntries_map Prod.fst fun binding => f binding.2, chosen, hlast]
  cases w.bindings.reverse.find? (·.1 == kind) <;> rfl

theorem handler_traversal (kind : String) : w.traversal.handler kind = (w.chosen kind).handler :=
  find?_ofEntries_bindings w Visitor.handler kind

theorem handler_recording (kind : String) :
    w.recording.handler kind = (w.chosen kind).recordedHandler :=
  find?_ofEntries_bindings w Visitor.recordedHandler kind

mutual

theorem records_child (siblings : Siblings) : (c : Child) →
    Action.Records ((c.visits siblings.view).map w.dispatched) (w.recording.child siblings c)
      (w.traversal.child siblings c)
  | .text s => by
      rw [Traversal.child, Traversal.child, Child.visits]
      exact Action.records_recorded (w.text s)
  | .node name attributes children => by
      rw [Traversal.child, Traversal.child, handler_traversal, handler_recording, Child.visits]
      exact Visitor.records_recordedHandler _ _ _ (records_childrenFrom [] children)

/-- The children behind some others, in the list of all of them. -/
theorem records_childrenFrom (before : List Child) : (children : List Child) →
    Action.Records ((Child.visitsAfter before children).map w.dispatched)
      (w.recording.childrenFrom (before ++ children) before.length children)
      (w.traversal.childrenFrom (before ++ children) before.length children)
  | [] => by
      rw [Traversal.childrenFrom, Traversal.childrenFrom, Child.visitsAfter]
      exact Action.records_pure []
  | c :: rest => by
      -- The list of all children stays as it is while the first one goes over to those before.
      have hfirst := records_child ⟨before ++ c :: rest, before.length⟩ c
      have hothers := records_childrenFrom (before ++ [c]) rest
      rw [Siblings.view_between] at hfirst
      rw [List.length_append, List.length_singleton, ← List.append_cons] at hothers
      rw [Traversal.childrenFrom, Traversal.childrenFrom, Child.visitsAfter, List.map_append]
      refine hfirst.bind fun first => ?_
      have hrest := hothers.bind fun others => Action.records_pure (first.toList ++ others)
      rwa [List.append_nil] at hrest

end

/-- A walk does the same whether or not it is recorded. When it succeeds, all nodes of the tree have
been dispatched in document order, each to the handler of its kind and with its place among the
children of its parent as they were. When it fails, a beginning of them has been dispatched, and its
error is that of the one failure, after which nothing was dispatched. -/
theorem outcome_recording (root : Node) (s : σ) :
    let plain := (w.traversal.run root).outcome s
    ∃ log, (w.recording.run root).outcome (s, []) = (plain.1, (plain.2, log)) ∧
      Action.Told (w.dispatches root) log plain.1 :=
  w.records_child .root root s []

end Walk

end DocBridge

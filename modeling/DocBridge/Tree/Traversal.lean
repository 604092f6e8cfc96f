import DocBridge.Tree.Basic

/-!
# Traversals

A traversal gives every node a result made from the results of its children. It is a table of
handlers by kind, a fallback for the other kinds and a rule for text leaves; which handler is run,
in what order children are visited and what each handler sees of its surroundings is settled here.

A handler is given the node, its place among its siblings and the computation that transforms its
children, which it may run or not. A result of several fragments is spliced into the list that the
parent sees.
-/

namespace DocBridge

/-- What a handler makes of one child. -/
inductive Transformed (α : Type) where
  | one (value : α)
  | many (values : List α)

def Transformed.toList {α : Type} : Transformed α → List α
  | one value => [value]
  | many values => values

/-- The place of a child among the children of its parent, as they were before the traversal. -/
structure Siblings where
  children : List Child
  index : Nat

namespace Siblings

/-- The place of a node that is transformed on its own. -/
def root : Siblings := ⟨[], 0⟩

def count (s : Siblings) : Nat := s.children.length

def previous? (s : Siblings) : Option Child :=
  match s.index with
  | 0 => none
  | i + 1 => s.children[i]?

def next? (s : Siblings) : Option Child := s.children[s.index + 1]?

def isFirst (s : Siblings) : Bool := s.index == 0

def isLast (s : Siblings) : Bool := s.count ≤ s.index + 1

end Siblings

/-- How nodes of one kind are transformed. -/
abbrev Handler (m : Type → Type) (α : Type) := Node → Siblings → m (List α) → m (Transformed α)

/-- Handlers by kind. -/
abbrev Handlers (m : Type → Type) (α : Type) := Dictionary (Handler m α)

structure Traversal (m : Type → Type) (α : Type) where
  handlers : Handlers m α
  fallback : Handler m α
  text : String → m (Transformed α)

namespace Traversal

variable {m : Type → Type} {α : Type}

def handler (t : Traversal m α) (kind : String) : Handler m α :=
  (t.handlers.find? kind).getD t.fallback

variable [Monad m]

mutual

def child (t : Traversal m α) (siblings : Siblings) : Child → m (Transformed α)
  | .text s => t.text s
  | .node name attributes children =>
    t.handler name ⟨name, attributes, children⟩ siblings (childrenFrom t children 0 children)

/-- The results of the children of a list from an index on. -/
def childrenFrom (t : Traversal m α) (all : List Child) (index : Nat) :
    List Child → m (List α)
  | [] => pure []
  | c :: rest => do
    let first ← child t ⟨all, index⟩ c
    let others ← childrenFrom t all (index + 1) rest
    return first.toList ++ others

end

/-- The result for a whole tree. -/
def run (t : Traversal m α) (root : Node) : m (Transformed α) := t.child .root root

/-- The same traversal with an action before every handler. -/
def observed (observe : Node → Siblings → m Unit) (t : Traversal m α) : Traversal m α :=
  let watch (h : Handler m α) : Handler m α := fun n siblings children => do
    observe n siblings
    h n siblings children
  { t with
    handlers := t.handlers.map fun (kind, h) => (kind, watch h)
    fallback := watch t.fallback }

/-! ### What a traversal keeps

A traversal does nothing of its own: it runs handlers and the rule for text, one after another.
What holds of doing nothing and of doing one thing after another, and of what a handler does when
it holds of its children, therefore holds of every traversal of every tree. -/

section Keeps

variable {t : Traversal m α} {P : {β : Type} → m β → Prop}
  (hpure : ∀ {β : Type} (x : β), P (pure x))
  (hbind : ∀ {β γ : Type} {a : m β} {k : β → m γ}, P a → (∀ x, P (k x)) → P (a >>= k))

include hpure hbind

theorem childrenFrom_of_forall {all : List Child} {children : List Child} (index : Nat)
    (h : ∀ c ∈ children, ∀ siblings, P (t.child siblings c)) :
    P (t.childrenFrom all index children) := by
  induction children generalizing index with
  | nil => exact hpure []
  | cons c rest ih =>
      obtain ⟨hc, hrest⟩ := List.forall_mem_cons.mp h
      rw [childrenFrom]
      refine hbind (hc ⟨all, index⟩) fun first => ?_
      exact hbind (ih (index + 1) hrest) fun others => hpure _

theorem child_of_handlers (htext : ∀ s, P (t.text s))
    (hhandler : ∀ (n : Node) siblings children, P children →
      P (t.handler n.name n siblings children))
    (c : Child) (siblings : Siblings) : P (t.child siblings c) := by
  cases c with
  | text s =>
      rw [child]
      exact htext s
  | node name attributes children =>
      rw [child]
      apply hhandler ⟨name, attributes, children⟩
      exact childrenFrom_of_forall hpure hbind 0 fun d hd siblings =>
        child_of_handlers htext hhandler d siblings
termination_by c

end Keeps

end Traversal

end DocBridge

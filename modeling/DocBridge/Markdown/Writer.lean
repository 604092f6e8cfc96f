import DocBridge.Error
import DocBridge.Markdown.Document
import DocBridge.Text.Lines
import DocBridge.Tree.Kind
import DocBridge.Tree.Traversal

/-!
# Writing Markdown

Every node gives a piece of Markdown made from the pieces of its children. Blocks are separated by
blank lines. A block quote and a list item put something before each line of what is in them: a
quote its bracket, an item its marker before the first line and as many spaces before the others.
Text is written as it is, without escapes, and nodes of other kinds give the pieces of their
children.

While the children of a list are written its marker is on a stack, so an item finds the marker of
the innermost list around it. Items of tight lists hold plain text and are separated by line ends;
a paragraph in an item or in the next one makes the separation a blank line.

Writing is a traversal like any other and so may fail, but no handler does: every tree is written.
-/

namespace DocBridge.Markdown

namespace Marker

/-- The largest number an item can have. -/
def greatestNumber : Nat := UInt64.size - 1

/-- The marker of the item with an index, with the space after it. -/
def text (index : Nat) : Marker → String
  | bullet character => String.ofList [character, ' ']
  | ordered start delimiter =>
    toString (min (start + index) greatestNumber) ++ String.ofList [delimiter, ' ']

def ofOrderedList (list : Node) : Marker :=
  ordered ((list.natural? "start").getD 1)
    (if list.string? "delimiter" = some ")" then ')' else '.')

end Marker

def defaultBullet : Char := '-'

/-- Writing with the markers of the enclosing lists at hand, the innermost first. A failure leaves
them as they are. -/
abbrev Writing := EStateM Error (List Marker)

namespace Writer

def concat (parts : List String) : String := String.join parts

def blankLine : String := "\n\n"

/-- Writes what is inside a list, with its marker on the stack. It is taken off again before a
failure is passed on. -/
def within (marker : Marker) (children : Writing (List String)) : Writing (List String) := do
  modify (marker :: ·)
  try children finally modify List.tail

/-- The marker of an item; outside of lists it is a bullet. -/
def itemMarker (bullet : Char) (index : Nat) : Writing String := do
  return (((← get).head?).getD (.bullet bullet)).text index

/-- A text with the brackets of a block quote before its lines. -/
def quoteLines (s : String) : String :=
  Text.joinLines ((Text.lines s).map fun line => if line = "" then ">" else "> " ++ line)

/-- A text with a marker before its first line and its other lines indented by as much. -/
def hang (marker : String) (s : String) : String :=
  let indentation := String.ofList (List.replicate marker.length ' ')
  match Text.lines s with
  | [] => marker
  | first :: rest =>
    Text.joinLines ((marker ++ first) :: rest.map fun line =>
      if line = "" then "" else indentation ++ line)

/-- Whether an item holds a paragraph. -/
def isLoose : Child → Bool
  | .text _ => false
  | .node _ _ children => children.any fun c =>
    match c with
    | .text _ => false
    | .node name _ _ => name == Kind.para.name

def separator (item : Node) (siblings : Siblings) : String :=
  match siblings.next? with
  | none => ""
  | some next => if isLoose item || isLoose next then blankLine else "\n"

def linkTarget (n : Node) : String :=
  let url := (n.string? "url").getD ""
  match n.string? "title" with
  | none | some "" => "(" ++ url ++ ")"
  | some title => "(" ++ url ++ " \"" ++ title ++ "\")"

def codeSpan (code : String) : String :=
  if code.toList.contains '`' then "`` " ++ code ++ " ``" else "`" ++ code ++ "`"

def headingMark (n : Node) : String :=
  String.ofList (List.replicate (max 1 (min ((n.natural? "level").getD 1) 6)) '#')

/-- How a node of a kind is written. -/
def handler (bullet : Char) : Kind → Handler Writing String
  | .root => fun _ _ children => return .one (String.intercalate blankLine (← children))
  | .para | .plain => fun _ _ children => return .one (concat (← children))
  | .header => fun n _ children => return .one (headingMark n ++ " " ++ concat (← children))
  | .codeBlock => fun n _ _ =>
    return .one ("```" ++ (n.string? "lang").getD "" ++ "\n" ++ n.textContent ++ "\n```")
  | .blockQuote => fun _ _ children =>
    return .one (quoteLines (String.intercalate blankLine (← children)))
  | .bulletList => fun _ _ children => return .one (concat (← within (.bullet bullet) children))
  | .orderedList => fun n _ children =>
    return .one (concat (← within (.ofOrderedList n) children))
  | .listItem => fun n siblings children => do
    let marker ← itemMarker bullet siblings.index
    let body := String.intercalate (if isLoose n then blankLine else "\n") (← children)
    return .one (hang marker body ++ separator n siblings)
  | .mathBlock => fun n _ _ => return .one ("$$" ++ n.textContent ++ "$$")
  | .emph => fun _ _ children => return .one ("*" ++ concat (← children) ++ "*")
  | .strong => fun _ _ children => return .one ("**" ++ concat (← children) ++ "**")
  | .code => fun n _ _ => return .one (codeSpan n.textContent)
  | .math => fun n _ _ => return .one ("$" ++ n.textContent ++ "$")
  | .link => fun n _ children =>
    return .one ("[" ++ concat (← children) ++ "]" ++ linkTarget n)
  | .image => fun n _ children =>
    return .one ("![" ++ concat (← children) ++ "]" ++ linkTarget n)
  | .softBreak => fun _ _ _ => return .one "\n"
  | .lineBreak => fun _ _ _ => return .one "\\\n"

def handlers (bullet : Char) : Handlers Writing String :=
  .ofEntries (Kind.all.map fun kind => (kind.name, handler bullet kind))

def traversal (bullet : Char) : Traversal Writing String where
  handlers := handlers bullet
  fallback := fun _ _ children => return .one (concat (← children))
  text := fun s => return .one s

/-- Writes a whole tree. -/
def tree (bullet : Char) (root : Node) : Writing String :=
  return concat (← (traversal bullet).run root).toList

/-! ### Handlers -/

variable {α β : Type} {bullet : Char} {n : Node} {siblings : Siblings}
  {children : Writing (List String)}

theorem find?_handlers (bullet : Char) (name : String) :
    (handlers bullet).find? name =
      (Kind.all.reverse.find? (·.name == name)).map (handler bullet) :=
  Dictionary.find?_ofEntries_map Kind.name (handler bullet) name Kind.all

theorem handler_name (bullet : Char) (kind : Kind) :
    (traversal bullet).handler kind.name = handler bullet kind := by
  have hlast : Kind.all.reverse.find? (·.name == kind.name) = some kind := by
    cases kind <;> decide
  rw [Traversal.handler, traversal, find?_handlers, hlast]
  rfl

/-- A node is written by the handler of its kind, or by the fallback if it is of no kind. -/
theorem handler_cases (bullet : Char) (name : String) :
    (traversal bullet).handler name = (traversal bullet).fallback ∨
      ∃ kind : Kind, name = kind.name ∧ (traversal bullet).handler name = handler bullet kind := by
  rw [Traversal.handler, traversal, find?_handlers]
  cases hlast : Kind.all.reverse.find? (·.name == name) with
  | none => exact .inl rfl
  | some kind =>
      have hname : kind.name = name := by simpa using List.find?_some hlast
      exact .inr ⟨kind, hname.symm, rfl⟩

section Closed

variable {P : {α : Type} → Writing α → Prop} (hpure : ∀ {α : Type} (x : α), P (pure x))
  (hbind : ∀ {α β : Type} {a : Writing α} {k : α → Writing β}, P a → (∀ x, P (k x)) → P (a >>= k))

include hpure hbind

/-- Handlers run their children or do nothing. Those of lists put a marker on the stack for it, and
that of items looks for one. -/
theorem handler_of_closed {kind : Kind}
    (hwithin : kind = .bulletList ∨ kind = .orderedList → ∀ marker, P (within marker children))
    (hmarker : kind = .listItem → P (itemMarker bullet siblings.index)) (h : P children) :
    P (handler bullet kind n siblings children) := by
  cases kind with
  | bulletList => exact hbind (hwithin (.inl rfl) _) fun _ => hpure _
  | orderedList => exact hbind (hwithin (.inr rfl) _) fun _ => hpure _
  | listItem => exact hbind (hmarker rfl) fun _ => hbind h fun _ => hpure _
  | codeBlock | mathBlock | code | math | softBreak | lineBreak => exact hpure _
  | root | para | plain | header | blockQuote | emph | strong | link | image =>
      exact hbind h fun _ => hpure _

theorem child_of_closed (hwithin : ∀ {children}, P children → ∀ marker, P (within marker children))
    (hmarker : ∀ index, P (itemMarker bullet index)) (siblings : Siblings) (c : Child) :
    P ((traversal bullet).child siblings c) := by
  -- The induction over the tree is that of the traversal; a handler is asked for one node only.
  apply Traversal.child_of_handlers hpure hbind
  · intro s
    exact hpure _
  · intro n siblings children h
    obtain hfallback | ⟨kind, -, hkind⟩ := handler_cases bullet n.name
    · rw [hfallback]
      exact hbind h fun _ => hpure _
    · rw [hkind]
      exact handler_of_closed hpure hbind (fun _ => hwithin h) (fun _ => hmarker _) h

end Closed

/-! ### Success -/

theorem run_within (marker : Marker) (children : Writing (List String)) (stack : List Marker) :
    (within marker children).run stack =
      match children.run (marker :: stack) with
      | .ok parts left => .ok parts left.tail
      | .error e left => .error e left.tail := by
  have hrun : (within marker children).run stack =
      (tryFinally children (modify List.tail)).run (marker :: stack) := rfl
  rw [hrun]
  simp only [tryFinally, tryFinally', Functor.map, EStateM.map, EStateM.run]
  cases children (marker :: stack) <;> rfl

/-- There is a result, whatever the markers are. -/
def Succeeds (a : Writing α) : Prop := ∀ stack, ∃ x left, a.run stack = .ok x left

theorem succeeds_pure (x : α) : Succeeds (pure x) := fun stack => ⟨x, stack, rfl⟩

theorem Succeeds.bind {a : Writing α} {k : α → Writing β} (ha : Succeeds a)
    (hk : ∀ x, Succeeds (k x)) : Succeeds (a >>= k) := by
  intro stack
  obtain ⟨x, middle, hx⟩ := ha stack
  rw [EStateM.run_bind, hx]
  exact hk x middle

theorem succeeds_within (h : Succeeds children) (marker : Marker) :
    Succeeds (within marker children) := by
  intro stack
  obtain ⟨parts, left, hparts⟩ := h (marker :: stack)
  exact ⟨parts, left.tail, by rw [run_within, hparts]⟩

theorem succeeds_itemMarker (bullet : Char) (index : Nat) : Succeeds (itemMarker bullet index) :=
  fun stack => ⟨_, stack, rfl⟩

theorem succeeds_child (bullet : Char) (siblings : Siblings) (c : Child) :
    Succeeds ((traversal bullet).child siblings c) :=
  child_of_closed succeeds_pure Succeeds.bind succeeds_within (succeeds_itemMarker bullet)
    siblings c

theorem succeeds_tree (bullet : Char) (root : Node) : Succeeds (tree bullet root) :=
  (succeeds_child bullet .root root).bind fun _ => succeeds_pure _

/-- What is given with some markers on the stack. -/
def Succeeds.value {a : Writing α} (h : Succeeds a) (stack : List Marker) : α :=
  match hrun : a.run stack with
  | .ok x _ => x
  | .error _ _ => absurd (h stack) fun ⟨_, _, hx⟩ => by simp [hrun] at hx

theorem Succeeds.value_eq {a : Writing α} (h : Succeeds a) {stack left : List Marker} {x : α}
    (hx : a.run stack = .ok x left) : h.value stack = x := by
  rw [value]
  split
  · next hrun => exact (EStateM.Result.ok.inj (hrun.symm.trans hx)).1
  · next hrun => cases hrun.symm.trans hx

end Writer

/-- What a new writer makes of a tree, with a given character for bullets. -/
def tryWrite (bullet : Char) (root : Node) : Except Error String :=
  match (Writer.tree bullet root).run [] with
  | .ok text _ => .ok text
  | .error e _ => .error e

/-- A tree as Markdown, with a given character for bullets. -/
def write (bullet : Char) (root : Node) : String := (Writer.succeeds_tree bullet root).value []

theorem tryWrite_eq (bullet : Char) (root : Node) :
    tryWrite bullet root = .ok (write bullet root) := by
  have hsucceeds := Writer.succeeds_tree bullet root
  obtain ⟨text, left, htext⟩ := hsucceeds []
  rw [tryWrite, htext, write, hsucceeds.value_eq htext]

end DocBridge.Markdown

/-!
# Markdown documents

The syntax tree of a Markdown text. Blocks are first told apart with the text inside them unread,
and that text is read as inlines when all of them are known, so blocks are given over what their
text is. Which blocks and inlines stand where is settled by the types: a list holds items, items
and quotes hold blocks, and text stands in paragraphs and headings only.
-/

namespace DocBridge.Markdown

/-- What the items of a list begin with. -/
inductive Marker where
  | bullet (character : Char)
  | ordered (start : Nat) (delimiter : Char)
deriving DecidableEq, Repr

/-- Whether items with two markers are in one list. Their numbers do not matter. -/
def Marker.continues : Marker → Marker → Bool
  | bullet c, bullet c' => c == c'
  | ordered _ d, ordered _ d' => d == d'
  | _, _ => false

inductive Inline where
  | text (text : String)
  | softBreak
  | lineBreak
  | emph (children : List Inline)
  | strong (children : List Inline)
  | code (text : String)
  | math (isDisplay : Bool) (text : String)
  | link (url title : String) (children : List Inline)
  | image (url title : String) (children : List Inline)
  | html
deriving Inhabited

inductive Block (α : Type) where
  | paragraph (content : α)
  | heading (level : Nat) (content : α)
  | code (language : Option String) (text : String)
  | quote (blocks : List (Block α))
  | list (marker : Marker) (isTight : Bool) (items : List (List (Block α)))
  | rule
  | html

namespace Block

variable {m : Type → Type} [Applicative m] {α β : Type}

mutual

/-- The same blocks with something done to the text in them, from the first to the last. -/
def traverse (f : α → m β) : Block α → m (Block β)
  | paragraph content => paragraph <$> f content
  | heading level content => heading level <$> f content
  | code language text => pure (code language text)
  | quote blocks => quote <$> traverseAll f blocks
  | list marker isTight items => list marker isTight <$> traverseItems f items
  | rule => pure rule
  | html => pure html

def traverseAll (f : α → m β) : List (Block α) → m (List (Block β))
  | [] => pure []
  | block :: rest => List.cons <$> traverse f block <*> traverseAll f rest

def traverseItems (f : α → m β) : List (List (Block α)) → m (List (List (Block β)))
  | [] => pure []
  | item :: rest => List.cons <$> traverseAll f item <*> traverseItems f rest

end

end Block

/-- A whole Markdown text. -/
abbrev Document := List (Block (List Inline))

end DocBridge.Markdown

import DocBridge.Markdown.Link

/-!
# Link reference definitions

A paragraph may begin with definitions: a label, a colon, a destination and perhaps a title, up to
the end of a line. They are taken out of the paragraph, and the first definition of a label
counts. Only text that is followed by a line feed holds definitions, which is so for every line of
a paragraph.
-/

namespace DocBridge.Markdown

open Text

/-- Where a label leads to. -/
structure Target where
  url : String
  title : String
deriving Repr

/-- What a use of the target adds to a document, in bytes. -/
def Target.size (target : Target) : Nat := target.url.utf8ByteSize + target.title.utf8ByteSize

/-- The definitions of a document by their labels in the form for comparing. -/
abbrev References := List (List Char × Target)

namespace References

def find? (references : References) (label : List Char) : Option Target :=
  references.lookup (Link.normalizeLabel label)

/-- Adds a definition unless the label has one or is blank. -/
def define (references : References) (label : List Char) (target : Target) : References :=
  let label := Link.normalizeLabel label
  if label = [] ∨ (references.lookup label).isSome then references
  else references ++ [(label, target)]

end References

namespace Reference

def skipSpaces (s : List Char) : List Char := s.dropWhile isSpaceOrTab

/-- Spaces with at most one line feed among them. -/
def skipSpacesAndLine (s : List Char) : List Char :=
  match skipSpaces s with
  | '\n' :: rest => skipSpaces rest
  | rest => rest

/-- Spaces up to the end of a line. -/
def lineEnd? (s : List Char) : Option (List Char) :=
  match skipSpaces s with
  | '\n' :: rest => some rest
  | [] => some []
  | _ => none

/-- The title after a destination, blanks before it, and what follows. -/
def title? (s : List Char) : Option (List Char × List Char) :=
  let rest := skipSpacesAndLine s
  if rest.length = s.length then none else Link.title? rest

/-- A definition at the front of a text. When something stands after the title on its line, the
title stays in the text; the definition has it all the same. -/
def read? (s : List Char) : Option ((List Char × Target) × List Char) := do
  let (label, rest) ← Link.label? s
  guard (label ≠ [])
  let rest ← match rest with
    | ':' :: rest => some rest
    | _ => none
  let (url, rest) ← Link.destination? (skipSpacesAndLine rest)
  let (title, rest) ← match title? rest with
    | some (title, after) => do some (title, ← (lineEnd? after).or (lineEnd? rest))
    | none => do some ([], ← lineEnd? rest)
  some ((label, ⟨Link.cleanDestination url, Link.cleanTitle title⟩), rest)

/-- Takes at most so many definitions from the front of a text. -/
def takeWithin (references : References) : Nat → List Char → References × List Char
  | 0, s => (references, s)
  | most + 1, s =>
    match read? s with
    | some ((label, target), rest) => takeWithin (references.define label target) most rest
    | none => (references, s)

/-- Takes the definitions from the front of a text. -/
def take (references : References) (s : List Char) : References × List Char :=
  takeWithin references s.length s

end Reference

end DocBridge.Markdown

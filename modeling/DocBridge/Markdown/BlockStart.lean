import DocBridge.Markdown.Cursor
import DocBridge.Markdown.Document
import DocBridge.Markdown.Html
import DocBridge.Text.Blank
import DocBridge.Text.Digits

/-!
# How blocks begin

Which block begins at a place in a line can be told from the line, from whether the place is in a
paragraph and from whether the line might go on with a paragraph that is still open. Four columns of
indentation make a code block and keep everything else from beginning.
-/

namespace DocBridge.Markdown

open Text

inductive BlockStart where
  | quote (content : Cursor)
  | heading (level : Nat) (text : List Char)
  | fence (character : Char) (length indentation : Nat) (info : List Char)
  | html (opening : Html.Opening)
  /-- A line under a paragraph that makes it a heading. -/
  | underline (level : Nat)
  | rule
  /-- A list item whose further lines are indented by a number of columns. -/
  | item (marker : Marker) (width : Nat) (content : Cursor)
  | indentedCode (content : Cursor)

namespace BlockStart

/-- Behind a space that may follow a bracket or marker. -/
def skipSpace (cursor : Cursor) : Cursor := if cursor.atSpace then cursor.advance 1 else cursor

/-- A heading without the hashes that close it. -/
def trimClosing (s : List Char) : List Char :=
  let s := dropRightWhile isSpacing s
  let body := dropRightWhile (· == '#') s
  match body.getLast? with
  | none => []
  | some c =>
    if body.length < s.length ∧ isSpaceOrTab c then dropRightWhile isSpacing body else s

def heading? (s : List Char) : Option BlockStart :=
  let level := (s.takeWhile (· == '#')).length
  let rest := s.drop level
  if 1 ≤ level ∧ level ≤ 6 ∧ (rest.head?.map isSpaceOrTab).getD true then
    some (heading level (trimClosing (rest.dropWhile isSpaceOrTab)))
  else none

def fence? (cursor : Cursor) : Option BlockStart :=
  match cursor.text with
  | c :: rest =>
    let length := ((c :: rest).takeWhile (· == c)).length
    let info := (c :: rest).drop length
    if 3 ≤ length ∧ ((c = '`' ∧ ¬ info.contains '`') ∨ c = '~') then
      some (fence c length cursor.spaceCharacters info)
    else none
  | [] => none

def underline? (s : List Char) : Option BlockStart :=
  match s with
  | c :: _ =>
    if (s.dropWhile (· == c)).all isSpaceOrTab then
      if c = '=' then some (underline 1) else if c = '-' then some (underline 2) else none
    else none
  | [] => none

def isRule (s : List Char) : Bool :=
  match s with
  | c :: _ =>
    (c == '*' || c == '_' || c == '-') && s.all (fun d => d == c || isSpaceOrTab d) &&
      3 ≤ s.count c
  | [] => false

/-- A list marker and how many characters it has. To interrupt a paragraph an item needs text, and
its number has to be one. -/
def marker? (interrupts : Bool) (s : List Char) : Option (Marker × Nat) :=
  let found := match s with
    | c :: rest =>
      if c = '*' ∨ c = '-' ∨ c = '+' then some (Marker.bullet c, 1, rest)
      else
        let digits := s.takeWhile Char.isDigit
        match s.drop digits.length with
        | d :: rest =>
          if 1 ≤ digits.length ∧ digits.length ≤ 9 ∧ (d = '.' ∨ d = ')') then
            some (Marker.ordered (Text.valueOf 10 digits) d, digits.length + 1, rest)
          else none
        | [] => none
    | [] => none
  match found with
  | none => none
  | some (marker, length, rest) =>
    let mayInterrupt := !rest.all isSpaceOrTab && match marker with
      | .bullet _ => true
      | .ordered number _ => number == 1
    if (rest.head?.map isSpacing).getD true ∧ (!interrupts || mayInterrupt) then
      some (marker, length)
    else none

/-- A list item. Its text begins up to four columns behind the marker, or one column behind it when
the text is farther away or there is none. -/
def item? (interrupts : Bool) (cursor : Cursor) : Option BlockStart :=
  match marker? interrupts cursor.text with
  | none => none
  | some (marker, length) =>
    let behind := cursor.toText.skip length
    let gap := behind.indentation
    if 1 ≤ gap ∧ gap ≤ 4 ∧ ¬ behind.isBlank then
      some (item marker (cursor.indentation + length + gap) (behind.advance gap))
    else some (item marker (cursor.indentation + length + 1) (skipSpace behind))

/-- The columns that make a code block. -/
def codeIndentation : Nat := 4

/-- The block that begins at a place. `mayBeLazy` says that an indented line would go on with an
open paragraph, `mayOpenItem` that lists do not nest too deep on this line. -/
def find? (inParagraph mayBeLazy mayOpenItem : Bool) (cursor : Cursor) : Option BlockStart :=
  let text := cursor.text
  if codeIndentation ≤ cursor.indentation then
    if mayBeLazy || cursor.isBlank then none
    else some (indentedCode (cursor.advance codeIndentation))
  else if text.head? = some '>' then some (quote (skipSpace (cursor.toText.skip 1)))
  else
    (heading? text).or <| (fence? cursor).or <| ((Html.opening? inParagraph text).map html).or <|
      (if inParagraph then underline? text else none).or <|
        if isRule text then some rule else if mayOpenItem then item? inParagraph cursor else none

end BlockStart

end DocBridge.Markdown

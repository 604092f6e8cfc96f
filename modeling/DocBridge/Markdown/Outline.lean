import DocBridge.Markdown.BlockStart
import DocBridge.Markdown.Reference

/-!
# The blocks of a text

A text is read line by line. At any time some containers are open, each inside the one before, and
perhaps a leaf inside the innermost. A line first goes on with as many of them as it can; then it
may begin new blocks; what remains of it is text for a leaf. Blocks that the line does not go on
with are closed as soon as it is known that it does not go on with an open paragraph lazily.

Whether a list is tight depends on blank lines between its items and between the blocks in them,
so every closed block records whether it ends in a blank line. Of the open blocks only the
innermost can do so.
-/

namespace DocBridge.Markdown

open Text

/-- A block that is complete. Nothing is left of a paragraph that held only definitions. -/
structure Closed where
  block : Option (Block (List Char))
  endsBlank : Bool

/-- An item that is complete, with the last of its blocks first. -/
structure ClosedItem where
  children : List Closed
  endsBlank : Bool

/-- The blocks of closed children, the last of which come first. -/
def blocksOf (children : List Closed) : List (Block (List Char)) :=
  children.reverse.filterMap (·.block)

namespace ClosedItem

/-- Whether a blank line within an item or after it makes the list loose. One at the end of the last
item does not. -/
def loosens (isLast : Bool) (item : ClosedItem) : Bool :=
  let inner := item.children.drop 1
  inner.any (·.endsBlank) || (!isLast && (item.endsBlank || item.children.any (·.endsBlank)))

/-- Whether an item or the last block in it ends in a blank line. -/
def tailIsBlank (item : ClosedItem) : Bool :=
  item.endsBlank || (((item.children.filter (·.block.isSome)).head?).map (·.endsBlank)).getD false

end ClosedItem

/-- Whether a list with these items, the last first, is tight. -/
def isTight : List ClosedItem → Bool
  | [] => true
  | last :: others => !last.loosens true && others.all (!·.loosens false)

/-- An open block that holds others. Closed blocks and items are kept with the last first. -/
inductive Container where
  | document (children : List Closed)
  | quote (children : List Closed)
  | list (marker : Marker) (items : List ClosedItem)
  /-- An item whose lines are indented by a number of columns. -/
  | item (width : Nat) (children : List Closed)

namespace Container

/-- Adds a closed block. Blocks stand in items, not in lists. -/
def add (closed : Closed) : Container → Container
  | document children => document (closed :: children)
  | quote children => quote (closed :: children)
  | item width children => item width (closed :: children)
  | list marker items => list marker items

def children : Container → List Closed
  | document children | quote children | item _ children => children
  | list _ _ => []

/-- Closes a container into the one around it. -/
def closeInto (endsBlank : Bool) (container parent : Container) : Container :=
  match container, parent with
  | item _ children, list marker items => list marker (⟨children, endsBlank⟩ :: items)
  | quote children, parent => parent.add ⟨some (.quote (blocksOf children)), endsBlank⟩
  | list marker items, parent =>
    let block := Block.list marker (isTight items) (items.reverse.map (blocksOf ·.children))
    parent.add ⟨some block, endsBlank || (items.head?.map (·.tailIsBlank)).getD false⟩
  | _, parent => parent

def isList : Container → Bool
  | list _ _ => true
  | _ => false

/-- Whether an item with a marker goes on with a list. -/
def takesItem (marker : Marker) : Container → Bool
  | list marker' _ => marker'.continues marker
  | _ => false

/-- Records that what was last closed in a container ends in a blank line. -/
def markLastBlank : Container → Container
  | document (last :: rest) => document ({ last with endsBlank := true } :: rest)
  | quote (last :: rest) => quote ({ last with endsBlank := true } :: rest)
  | item width (last :: rest) => item width ({ last with endsBlank := true } :: rest)
  | list marker (last :: rest) => list marker ({ last with endsBlank := true } :: rest)
  | container => container

/-- Where a line goes on inside a container, if it does. `isOccupied` says that something is open in
the container. -/
def continue? (isOccupied : Bool) (cursor : Cursor) : Container → Option Cursor
  | document _ | list _ _ => some cursor
  | quote _ =>
    if cursor.indentation < BlockStart.codeIndentation ∧ cursor.text.head? = some '>' then
      some (BlockStart.skipSpace (cursor.toText.skip 1))
    else none
  | item width children =>
    if width ≤ cursor.indentation then some (cursor.advance width)
    else if cursor.isBlank ∧ (isOccupied ∨ ¬ children.isEmpty) then some cursor.toText
    else none

end Container

/-- An open block that holds text. Lines of text end in line feeds. -/
inductive Leaf where
  | paragraph (text : List Char)
  | heading (level : Nat) (text : List Char)
  | fenced (character : Char) (length indentation : Nat) (info text : List Char)
  | indented (text : List Char)
  | html (opening : Html.Opening)
  | rule

/-- What a line is to an open leaf. -/
inductive LeafLine where
  | inside (cursor : Cursor)
  | outside
  | closing

namespace Leaf

/-- Behind at most so many spaces. -/
def skipSpaces : Nat → Cursor → Cursor
  | 0, cursor => cursor
  | n + 1, cursor => if cursor.atSpace then skipSpaces n (cursor.advance 1) else cursor

/-- Whether a text is a fence of a character that is at least as long as the opening one. -/
def isClosingFence (character : Char) (length : Nat) (text : List Char) : Bool :=
  let fence := text.takeWhile (· == character)
  length ≤ fence.length && (text.drop fence.length).all isSpaceOrTab

def onLine (cursor : Cursor) : Leaf → LeafLine
  | paragraph _ => if cursor.isBlank then .outside else .inside cursor
  | heading _ _ => .outside
  | fenced character length indentation _ _ =>
    if cursor.indentation < BlockStart.codeIndentation ∧
        isClosingFence character length cursor.text then .closing
    else .inside (skipSpaces indentation cursor)
  | indented _ =>
    if BlockStart.codeIndentation ≤ cursor.indentation then
      .inside (cursor.advance BlockStart.codeIndentation)
    else if cursor.isBlank then .inside cursor.toText
    else .outside
  | html opening => if cursor.isBlank ∧ opening.endsAtBlank then .outside else .inside cursor
  | rule => .inside cursor

/-- The language in an info string, its first word. -/
def language? (info : List Char) : Option String :=
  let info := Entity.dropBackslashes (trimWhile isSpacing (Entity.resolve info))
  match firstWord info with
  | [] => none
  | word => some (String.ofList word)

/-- Lines without the line feed at their end. -/
def withoutLineEnd (s : List Char) : List Char :=
  match s.getLast? with
  | some '\n' => s.dropLast
  | _ => s

/-- Lines without blank ones at the end. -/
def withoutBlankLines (s : List Char) : List Char :=
  let body := dropRightWhile (fun c => isSpaceOrTab c || c == '\n') s
  body ++ (s.drop body.length).takeWhile (· != '\n')

/-- The complete block, if something is left of it, and the definitions with those in it. -/
def close (references : References) : Leaf → Option (Block (List Char)) × References
  | paragraph text =>
    let (references, rest) := Reference.take references text
    (if rest.all isSpacing then none else some (.paragraph rest), references)
  | heading level text => (some (.heading level text), references)
  | fenced _ _ _ info text =>
    (some (.code (language? info) (String.ofList (withoutLineEnd text))), references)
  | indented text => (some (.code none (String.ofList (withoutBlankLines text))), references)
  | html _ => (some .html, references)
  | rule => (some .rule, references)

end Leaf

/-- The open blocks of the lines read so far, the innermost container first, and the definitions. -/
structure Outline where
  containers : List Container
  leaf : Option Leaf
  endsBlank : Bool
  references : References

namespace Outline

def empty : Outline := ⟨[.document []], none, false, []⟩

def push (container : Container) (o : Outline) : Outline :=
  { o with containers := container :: o.containers, endsBlank := false }

def addToTop (closed : Closed) : List Container → List Container
  | [] => []
  | top :: rest => top.add closed :: rest

/-- Closes the leaf. Unless asked to, it does not keep a trace of a block of which nothing is
left. -/
def closeLeaf (keepsTrace endsBlank : Bool) (o : Outline) : Outline :=
  match o.leaf with
  | none => o
  | some leaf =>
    let (block, references) := leaf.close o.references
    { containers :=
        if block.isSome || keepsTrace then addToTop ⟨block, endsBlank⟩ o.containers
        else o.containers
      leaf := none, endsBlank := false, references }

/-- Closes the innermost container, unless it is the document. -/
def closeTop (endsBlank : Bool) (o : Outline) : Outline :=
  match o.containers with
  | top :: parent :: rest =>
    { o with containers := top.closeInto endsBlank parent :: rest, endsBlank := false }
  | _ => o

/-- Closes a number of containers. The last to be closed ends in a blank line if `beforeBlank` says
so. -/
def closeContainers (beforeBlank : Bool) : Nat → Outline → Outline
  | 0, o => o
  | n + 1, o =>
    closeContainers beforeBlank n (o.closeTop (o.endsBlank || (n == 0 && beforeBlank)))

/-- Closes the leaf and a number of containers around it. -/
def closeBlocks (keepsTrace beforeBlank : Bool) (count : Nat) (o : Outline) : Outline :=
  (o.closeLeaf keepsTrace (o.endsBlank || (count == 0 && beforeBlank))).closeContainers
    beforeBlank count

def topIsList (o : Outline) : Bool := (o.containers.head?.map (·.isList)).getD false

/-- Makes place for a block that does not go on with a number of containers. A list at the place
ends before what is open in it, so definitions there still count as its blocks. -/
def interrupt (takesBlock : Container → Bool) (count : Nat) (o : Outline) : Outline :=
  let endsList : Bool := match (o.containers.drop count).head? with
    | some container => container.isList && !takesBlock container
    | none => false
  let o := o.closeBlocks endsList false count
  if endsList then o.closeTop o.endsBlank else o

/-- A blank line inside some containers, a number of others being left. -/
def addBlank (count : Nat) (o : Outline) : Outline :=
  let isOccupied := count != 0 || o.leaf.isSome
  let o := o.closeBlocks false true count
  match o.containers with
  | [] => o
  | top :: rest =>
    let endsBlank := match top with
      | .quote _ => false
      | _ => true
    { o with containers := (if isOccupied then top else top.markLastBlank) :: rest, endsBlank }

/-- A leaf in place of the one that is open, or in the innermost container. -/
def withLeaf (leaf : Leaf) (o : Outline) : Outline :=
  { o with leaf := some leaf, endsBlank := false }

/-- A line of text for a paragraph, the open one if the line may go on with it. -/
def addText (isInside : Bool) (count : Nat) (cursor : Cursor) (o : Outline) : Outline :=
  match o.leaf with
  | some (.paragraph text) =>
    o.withLeaf (.paragraph (text ++ (if isInside then cursor.text else cursor.remainder) ++ ['\n']))
  | _ =>
    let o := o.closeBlocks false false count
    let o := if o.topIsList then o.closeTop o.endsBlank else o
    o.withLeaf (.paragraph (cursor.text ++ ['\n']))

/-- A line of a block of HTML, which may be its last. -/
def addHtml (opening : Html.Opening) (cursor : Cursor) (o : Outline) : Outline :=
  let o := o.withLeaf (.html opening)
  if Html.endsOn opening cursor.text then o.closeLeaf false false
  else { o with endsBlank := cursor.isBlank }

/-- Makes a heading of the open paragraph, or goes on with it if it holds only definitions. -/
def underline (level : Nat) (cursor : Cursor) (o : Outline) : Outline :=
  match o.leaf with
  | some (.paragraph text) =>
    let (references, rest) := Reference.take o.references text
    let o := { o with references }
    if rest.all isSpacing then o.withLeaf (.paragraph (rest ++ cursor.text ++ ['\n']))
    else o.withLeaf (.heading level rest)
  | _ => o

/-- How many blocks lists may open on one line. -/
def mostBlocks : Nat := 100

/-- Begins the blocks that a line begins and adds the rest of it. The line goes on with all but a
number of containers, and with the leaf if `isInside` says so; `depth` counts the blocks that are
begun. -/
def addBlocks (isInside isFresh : Bool) (depth count : Nat) (cursor : Cursor) (o : Outline) :
    Nat → Outline
  | 0 => o
  | bound + 1 =>
    let isParagraph := match o.leaf with
      | some (.paragraph _) => true
      | _ => false
    match BlockStart.find? (isInside && isParagraph) isParagraph (depth < mostBlocks) cursor with
    | some (.quote content) =>
      addBlocks false true (depth + 1) 0 content
        ((o.interrupt (fun _ => false) count).push (.quote [])) bound
    | some (.item marker width content) =>
      let o := o.interrupt (·.takesItem marker) count
      let o := if o.topIsList then o else o.push (.list marker [])
      addBlocks false true (depth + 1) 0 content (o.push (.item width [])) bound
    | some (.heading level text) =>
      (o.interrupt (fun _ => false) count).withLeaf (.heading level text)
    | some (.fence character length indentation info) =>
      (o.interrupt (fun _ => false) count).withLeaf (.fenced character length indentation info [])
    | some (.html opening) => (o.interrupt (fun _ => false) count).addHtml opening cursor
    | some (.underline level) => o.underline level cursor
    | some .rule => (o.interrupt (fun _ => false) count).withLeaf .rule
    | some (.indentedCode content) =>
      (o.interrupt (fun _ => false) count).withLeaf (.indented (content.remainder ++ ['\n']))
    | none =>
      if cursor.isBlank then
        if isFresh ∨ isInside then { o with endsBlank := false } else o.addBlank count
      else o.addText isInside count cursor

/-- How many of the containers, the outermost first, a line does not go on with, and where it goes
on in the others. -/
def unmatched (hasLeaf : Bool) : List Container → Cursor → Nat × Cursor
  | [], cursor => (0, cursor)
  | container :: rest, cursor =>
    match container.continue? (hasLeaf || !rest.isEmpty) cursor with
    | some cursor => unmatched hasLeaf rest cursor
    | none => (rest.length + 1, cursor)

def addLine (o : Outline) (line : List Char) : Outline :=
  let (count, cursor) := unmatched o.leaf.isSome o.containers.reverse (.ofLine line)
  let proceed (isInside : Bool) (cursor : Cursor) : Outline :=
    addBlocks isInside false 1 count cursor o (line.length + 1)
  match o.leaf with
  | none => proceed false cursor
  | some leaf =>
    if count ≠ 0 then proceed false cursor
    else
      match leaf.onLine cursor, leaf with
      | .outside, _ => proceed false cursor
      | .closing, _ => o.closeLeaf false false
      | .inside cursor, .fenced character length indentation info text =>
        o.withLeaf (.fenced character length indentation info (text ++ cursor.remainder ++ ['\n']))
      | .inside cursor, .indented text =>
        { o.withLeaf (.indented (text ++ cursor.remainder ++ ['\n'])) with
          endsBlank := cursor.isBlank }
      | .inside cursor, .html opening => o.addHtml opening cursor
      | .inside cursor, _ => proceed true cursor

/-- The blocks when no more lines follow, and the definitions. -/
def finish (o : Outline) : List (Block (List Char)) × References :=
  let o := o.closeBlocks false false (o.containers.length - 1)
  (o.containers.flatMap fun container => blocksOf container.children, o.references)

/-- The lines of a source text, ended by a line feed, a carriage return or both. A null character
becomes a replacement character. -/
def sourceLines (line : List Char) : List Char → List (List Char)
  | [] => if line.isEmpty then [] else [line.reverse]
  | '\r' :: '\n' :: rest => line.reverse :: sourceLines [] rest
  | c :: rest =>
    if c = '\n' ∨ c = '\r' then line.reverse :: sourceLines [] rest
    else sourceLines ((if c = '\x00' then '\uFFFD' else c) :: line) rest

/-- The blocks of a source text and the definitions in it. A byte order mark at the front is no part
of the text. -/
def read (source : String) : List (Block (List Char)) × References :=
  let s := match source.toList with
    | '\uFEFF' :: rest => rest
    | s => s
  ((sourceLines [] s).foldl addLine empty).finish

end Outline

end DocBridge.Markdown

import DocBridge.Toml.Numeral
import DocBridge.Toml.Quoted
import DocBridge.Toml.Table

/-!
# Reading TOML

A document is a sequence of lines, each with a header, an entry or nothing, and perhaps a comment.
An entry belongs to the table of the last header. Arrays may spread over lines, tables in braces
may not, and both may nest only so deep; a dotted key is limited in the same way.
-/

namespace DocBridge.Toml

open Text Text.Scanner

namespace Reader

def depthLimit : Nat := 80

def skipBlanks : Scanner Unit := discard (takeWhile isSpaceOrTab)

/-- What is left after blanks, line breaks and comments. -/
def afterGap (inComment : Bool) : List Char → List Char
  | [] => []
  | '\n' :: rest => afterGap false rest
  | '\x0d' :: '\n' :: rest => afterGap false rest
  | c :: rest =>
    if inComment && Quoted.isPlain c then afterGap true rest
    else if c = '#' && !inComment then afterGap true rest
    else if isSpaceOrTab c && !inComment then afterGap false rest
    else c :: rest

def skipGap : Scanner Unit := modify (afterGap false)

/-! ## Keys -/

def isKeyCharacter (c : Char) : Bool := c.isAlphanum || c = '_' || c = '-'

def simpleKey : Scanner String := do
  match ← peek? with
  | some '"' => Quoted.line '"' true
  | some '\'' => Quoted.line '\'' false
  | _ => return String.ofList (← takeWhile1 isKeyCharacter)

def keyParts : (count : Nat) → Scanner (List String)
  | 0 => failure
  | count + 1 => do
    skipBlanks
    let part ← simpleKey
    skipBlanks
    if ← accept "." then return part :: (← keyParts count) else return [part]

/-- The parts of a key before its last one, and the last one. -/
def key : Scanner (List String × String) := do
  let parts ← keyParts (depthLimit - 1)
  match parts.getLast? with
  | some last => return (parts.dropLast, last)
  | none => failure

/-! ## Values -/

def scalar : Scanner Value := do
  match ← peek? with
  | some '"' | some '\'' => return .string (← Quoted.read)
  | some 't' => do
    expect "true"
    return .boolean true
  | some 'f' => do
    expect "false"
    return .boolean false
  | _ =>
    match ← attempt (Moment.read .inDocument) with
    | some m => return .moment m
    | none => Numeral.read

/-- The items of an array after its opening bracket. The last one may have a comma too. -/
def arrayItems (value : Scanner Item) : (count : Nat) → Scanner (List Item)
  | 0 => failure
  | count + 1 => do
    skipGap
    if ← accept "]" then return []
    let first ← value
    skipGap
    if ← accept "," then return first :: (← arrayItems value count)
    expect "]"
    return [first]

/-- An entry of a table: a key, an equals sign, a value. -/
def entry (value : Scanner Item) : Scanner ((List String × String) × Item) := do
  let key ← key
  expect "="
  skipBlanks
  let item ← value
  skipBlanks
  return (key, item)

/-- Adds the entries of a table in braces, after the opening one or a comma. -/
def tableEntries (value : Scanner Item) : (count : Nat) → Items → Scanner Items
  | 0, _ => failure
  | count + 1, items => do
    let ((path, key), item) ← entry value
    match items.define path key item with
    | none => failure
    | some items =>
      if ← accept "," then tableEntries value count items
      else
        expect "\x7d"
        return items

/-- A table in braces, after the opening one. -/
def inlineTable (value : Scanner Item) : Scanner Items := do
  skipBlanks
  if ← accept "\x7d" then return []
  tableEntries value (← get).length []

/-- A value in which arrays and tables nest at most so deep. -/
def value : (depth : Nat) → Scanner Item
  | 0 => return .value (← scalar)
  | depth + 1 => do
    if ← accept "[" then return .array (← arrayItems (value depth) ((← get).length + 1))
    if ← accept "\x7b" then return .table .braces (← inlineTable (value depth))
    return .value (← scalar)

/-! ## Lines -/

/-- The document so far, and the header under which entries are added. -/
structure State where
  header : List String := []
  items : Items := []

def header (state : State) : Scanner State := do
  let isElement ← accept "[["
  if !isElement then expect "["
  let (path, key) ← key
  expect (if isElement then "]]" else "]")
  let opened :=
    if isElement then state.items.openElement path key else state.items.openTable path key
  match opened with
  | some items => return { header := path ++ [key], items }
  | none => failure

def addEntry (state : State) : Scanner State := do
  let ((path, key), item) ← entry (value (depthLimit - 1))
  match state.items.defineBelow state.header path key item with
  | some items => return { state with items }
  | none => failure

/-- The end of a line: blanks, perhaps a comment, a line break or the end of the text. -/
def lineEnd : Scanner Unit := do
  skipBlanks
  if ← accept "#" then
    let _ ← takeWhile Quoted.isPlain
  if !(← Quoted.lineBreak) then guard (← atEnd)

def line (state : State) : Scanner State := do
  skipBlanks
  let state ← match ← peek? with
    | none | some '#' | some '\n' | some '\x0d' => pure state
    | some '[' => header state
    | some _ => addEntry state
  lineEnd
  return state

def document : (count : Nat) → State → Scanner State
  | 0, state => return state
  | count + 1, state => do
    if ← atEnd then return state
    document count (← line state)

end Reader

/-- The table that a text holds. A byte order mark in front of it is passed over. -/
def read? (text : String) : Option (Dictionary Value) := do
  let s := match text.toList with
    | '\uFEFF' :: rest => rest
    | s => s
  let state ← readAll? (Reader.document s.length {}) s
  match ← Items.toValue? state.items with
  | .table entries => return entries
  | _ => none

end DocBridge.Toml

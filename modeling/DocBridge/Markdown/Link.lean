import DocBridge.Markdown.Entity
import DocBridge.Text.Blank
import DocBridge.Text.CaseFold

/-!
# Parts of links

A link has a destination, in angle brackets or bare, perhaps a title in quotes or parentheses, or a
label that refers to a definition. Scanners give what they found, as it is written, and what follows
it. Labels are compared after trimming, with blanks made single spaces and case folded.
-/

namespace DocBridge.Markdown.Link

open Text

/-- A destination after an opening angle bracket, with the bracket that closes it. A backslash takes
the next character with it. Something has to follow the closing bracket. -/
def bracketed? : List Char → Option (List Char × List Char)
  | '>' :: rest => if rest.isEmpty then none else some ([], rest)
  | '\\' :: c :: rest => (bracketed? rest).map fun (s, left) => ('\\' :: c :: s, left)
  | c :: rest =>
    if c = '\n' ∨ c = '<' then none else (bracketed? rest).map fun (s, left) => (c :: s, left)
  | [] => none

/-- How deep parentheses may nest in a bare destination. -/
def deepest : Nat := 32

/-- A bare destination, inside so many open parentheses. It ends before a blank, a control character
or a parenthesis that was not opened, and something has to follow it. -/
def bare? (depth : Nat) : List Char → Option (List Char × List Char)
  | '\\' :: c :: rest =>
    if isAsciiPunctuation c then (bare? depth rest).map fun (s, left) => ('\\' :: c :: s, left)
    else (bare? depth (c :: rest)).map fun (s, left) => ('\\' :: s, left)
  | c :: rest =>
    if c = '(' then
      if depth < deepest then (bare? (depth + 1) rest).map fun (s, left) => (c :: s, left) else none
    else if c = ')' then
      if depth = 0 then some ([], c :: rest)
      else (bare? (depth - 1) rest).map fun (s, left) => (c :: s, left)
    else if c = ' ' ∨ isAsciiControl c then
      if depth = 0 then some ([], c :: rest) else none
    else (bare? depth rest).map fun (s, left) => (c :: s, left)
  | [] => none

/-- A destination. A bare one is empty only before a closing parenthesis. -/
def destination? : List Char → Option (List Char × List Char)
  | '<' :: rest => bracketed? rest
  | s =>
    match bare? 0 s with
    | some ([], ')' :: rest) => some ([], ')' :: rest)
    | some ([], _) => none
    | found => found

/-- The text of a title up to its closing character, and what follows. The closing character may
stand in the title after a backslash, and ends it there only if nothing later does. -/
def titleText? (barred : Char → Bool) (close : Char) (escaped : Bool) :
    List Char → Option (List Char × List Char)
  | [] => none
  | c :: rest =>
    if c = close then
      if escaped then
        match titleText? barred close false rest with
        | some (s, left) => some (c :: s, left)
        | none => some ([], rest)
      else some ([], rest)
    else if barred c ∧ ¬ escaped then none
    else (titleText? barred close (c = '\\') rest).map fun (s, left) => (c :: s, left)

/-- A title, without the characters around it. -/
def title? : List Char → Option (List Char × List Char)
  | '"' :: rest => titleText? (fun _ => false) '"' false rest
  | '\'' :: rest => titleText? (fun _ => false) '\'' false rest
  | '(' :: rest => titleText? (· == '(') ')' false rest
  | _ => none

/-- How many bytes a label may have. -/
def longestLabel : Nat := 1000

/-- The text of a label up to its closing bracket, in at most so many bytes. A backslash takes ASCII
punctuation after it along. -/
def labelText? (bytes : Nat) : List Char → Option (List Char × List Char)
  | [] => none
  | ']' :: rest => some ([], rest)
  | '\\' :: c :: rest =>
    if isAsciiPunctuation c then
      if bytes < 2 then none
      else (labelText? (bytes - 2) rest).map fun (s, left) => ('\\' :: c :: s, left)
    else if bytes < 1 then none
    else (labelText? (bytes - 1) (c :: rest)).map fun (s, left) => ('\\' :: s, left)
  | c :: rest =>
    if c = '[' ∨ bytes < c.utf8Size then none
    else (labelText? (bytes - c.utf8Size) rest).map fun (s, left) => (c :: s, left)

/-- A label in brackets, trimmed. -/
def label? : List Char → Option (List Char × List Char)
  | '[' :: rest =>
    (labelText? longestLabel rest).map fun (s, left) => (trimWhile isSpacing s, left)
  | _ => none

/-- Runs of blanks made single spaces. -/
def singleSpaces : List Char → List Char
  | [] => []
  | c :: rest =>
    if isBlank c then
      match singleSpaces rest with
      | ' ' :: others => ' ' :: others
      | others => ' ' :: others
    else c :: singleSpaces rest

/-- The form in which labels are compared. -/
def normalizeLabel (s : List Char) : List Char :=
  foldCase (singleSpaces (trimWhile isSpacing s))

def cleanDestination (s : List Char) : String :=
  String.ofList (Entity.clean (trimWhile isSpacing s))

def cleanTitle (s : List Char) : String := String.ofList (Entity.clean s)

end DocBridge.Markdown.Link

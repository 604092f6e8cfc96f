import DocBridge.Text.Ascii
import DocBridge.Text.LowerCase

/-!
# HTML in Markdown

HTML leaves nothing in a document, but where it begins and ends decides what is read as Markdown.
Scanners take the characters after an opening `<` and give what follows the construct.

A block of HTML begins in one of seven ways. Each of the first five has a text that ends the block
on its line; the last two end at a blank line.
-/

namespace DocBridge.Markdown.Html

open Text

def skipBlanks (s : List Char) : List Char := s.dropWhile isAsciiBlank

/-- Whether a text begins with another one, given in small letters, in any case. -/
def startsWith (start : String) (s : List Char) : Bool :=
  start.toList.isPrefixOf (s.take start.length |>.map Char.toLower)

def tagName? : List Char → Option (List Char)
  | c :: rest =>
    if c.isAlpha then some (rest.dropWhile fun c => c.isAlphanum || c == '-') else none
  | [] => none

def attributeName? : List Char → Option (List Char)
  | c :: rest =>
    if c.isAlpha || c == '_' || c == ':' then
      some (rest.dropWhile fun c => c.isAlphanum || c == '.' || c == '_' || c == ':' || c == '-')
    else none
  | [] => none

/-- What follows a value in quotes, read after the opening one. -/
def quoted? (quote : Char) (s : List Char) : Option (List Char) :=
  match s.dropWhile (· != quote) with
  | _ :: rest => some rest
  | [] => none

def isUnquoted (c : Char) : Bool := !isAsciiBlank c && !"\"'=<>`".toList.contains c

def attributeValue? : List Char → Option (List Char)
  | '\'' :: rest => quoted? '\'' rest
  | '"' :: rest => quoted? '"' rest
  | c :: rest => if isUnquoted c then some (rest.dropWhile isUnquoted) else none
  | [] => none

/-- An attribute name with the value it may have. -/
def attribute? (s : List Char) : Option (List Char) :=
  match attributeName? s with
  | none => none
  | some rest =>
    match skipBlanks rest with
    | '=' :: value => attributeValue? (skipBlanks value)
    | _ => some rest

/-- The end of an opening tag. -/
def tagEnd? : List Char → Option (List Char)
  | '/' :: '>' :: rest => some rest
  | '>' :: rest => some rest
  | _ => none

/-- Attributes, of which there are at most so many, and the end of an opening tag. Blanks stand
before each attribute. -/
def attributes? : Nat → List Char → Option (List Char)
  | 0, _ => none
  | most + 1, s =>
    match tagEnd? (skipBlanks s) with
    | some rest => some rest
    | none =>
      if (s.head?.map isAsciiBlank).getD false then
        (attribute? (skipBlanks s)).bind (attributes? most)
      else none

def openTag? (s : List Char) : Option (List Char) :=
  (tagName? s).bind (attributes? s.length)

def closeTag? : List Char → Option (List Char)
  | '/' :: rest =>
    match (tagName? rest).map skipBlanks with
    | some ('>' :: rest) => some rest
    | _ => none
  | _ => none

def tag? (s : List Char) : Option (List Char) := (openTag? s).or (closeTag? s)

/-- The rest of a comment after its two hyphens. Two hyphens take a character with them unless that
ends the comment. -/
def commentEnd? : List Char → Option (List Char)
  | '-' :: '-' :: '>' :: rest => some rest
  | '-' :: '-' :: _ :: rest => commentEnd? rest
  | '-' :: '-' :: [] => none
  | '-' :: _ :: rest => commentEnd? rest
  | _ :: rest => commentEnd? rest
  | [] => none

/-- The rest of a comment after `<!--`, which may end at once. -/
def comment? : List Char → Option (List Char)
  | '>' :: rest => some rest
  | '-' :: '>' :: rest => some rest
  | s => commentEnd? s

/-- What opens a character data section after its exclamation mark, in any case. -/
def dataMark : String := "[cdata["

/-- The rest of a character data section. Brackets take a character with them unless they end it. -/
def dataEnd? : List Char → Option (List Char)
  | ']' :: ']' :: '>' :: rest => some rest
  | ']' :: ']' :: _ :: rest => dataEnd? rest
  | ']' :: ']' :: [] => none
  | ']' :: _ :: rest => dataEnd? rest
  | _ :: rest => dataEnd? rest
  | [] => none

/-- The rest of a processing instruction. A question mark takes a character with it unless it ends
the instruction. -/
def instructionEnd? : List Char → Option (List Char)
  | '?' :: '>' :: rest => some rest
  | '?' :: _ :: rest => instructionEnd? rest
  | _ :: rest => instructionEnd? rest
  | [] => none

/-- A declaration after its exclamation mark: capital letters, a blank, and all up to a closing
bracket. -/
def declaration? (s : List Char) : Option (List Char) :=
  let rest := s.dropWhile Char.isUpper
  if rest.length < s.length ∧ (rest.head?.map isAsciiBlank).getD false then quoted? '>' rest
  else none

/-! ## Blocks of HTML -/

/-- The ways in which a block of HTML begins. -/
inductive Opening where
  | verbatim
  | comment
  | instruction
  | declaration
  | data
  | blockTag
  | loneTag
deriving DecidableEq, Repr

def verbatimTags : List String := ["script", "pre", "textarea", "style"]

def blockTags : List String :=
  ["address", "article", "aside", "base", "basefont", "blockquote", "body", "caption",
    "center", "col", "colgroup", "dd", "details", "dialog", "dir", "div", "dl", "dt",
    "fieldset", "figcaption", "figure", "footer", "form", "frame", "frameset", "h1", "h2",
    "h3", "h4", "h5", "h6", "head", "header", "hr", "html", "iframe", "legend", "li", "link",
    "main", "menu", "menuitem", "nav", "noframes", "ol", "optgroup", "option", "p", "param",
    "search", "section", "summary", "table", "tbody", "td", "tfoot", "th", "thead", "title",
    "tr", "track", "ul"]

/-- The rest after one of the names in any case, the name being all letters and digits there. -/
def afterName? (names : List String) (s : List Char) : Option (List Char) :=
  let name := s.takeWhile Char.isAlphanum
  if names.contains (String.ofList (name.map Char.toLower)) then some (s.drop name.length) else none

def endsName (alsoSlash : Bool) : List Char → Bool
  | [] => true
  | '/' :: '>' :: _ => alsoSlash
  | c :: _ => isAsciiBlank c || c == '>'

def isBlockTag (s : List Char) : Bool :=
  let s := match s with
    | '/' :: rest => rest
    | s => s
  ((afterName? blockTags s).map (endsName true)).getD false

/-- How a line begins a block of HTML. A tag alone on its line begins one where no paragraph would
be interrupted. -/
def opening? (interruptsParagraph : Bool) : List Char → Option Opening
  | '<' :: s =>
    if ((afterName? verbatimTags s).map (endsName false)).getD false then some .verbatim
    else if startsWith "!--" s then some .comment
    else if startsWith "?" s then some .instruction
    else if startsWith "!" s ∧ ((s.drop 1).head?.map Char.isUpper).getD false then some .declaration
    else if startsWith ("!" ++ dataMark) s then some .data
    else if isBlockTag s then some .blockTag
    else if interruptsParagraph then none
    else
      match tag? s with
      | some rest =>
        if rest.all fun c => c == ' ' || c == '\t' || c == '\x0c' then some .loneTag else none
      | none => none
  | _ => none

/-- Whether a line ends a block of HTML. -/
def endsOn (opening : Opening) (line : List Char) : Bool :=
  let lower := line.map Char.toLower
  match opening with
  | .verbatim => verbatimTags.any fun name => occursIn ("</" ++ name ++ ">").toList lower
  | .comment => occursIn "-->".toList line
  | .instruction => occursIn "?>".toList line
  | .declaration => line.contains '>'
  | .data => occursIn "]]>".toList line
  | _ => false

/-- Whether a blank line ends a block of HTML. -/
def Opening.endsAtBlank : Opening → Bool
  | blockTag | loneTag => true
  | _ => false

end DocBridge.Markdown.Html

import DocBridge.Markdown.Emphasis
import DocBridge.Markdown.Html
import DocBridge.Markdown.Reference
import DocBridge.Markdown.Verbatim
import DocBridge.Text.Lines

/-!
# Reading inlines

The text of a paragraph or heading is read from left to right into pieces: inlines, runs of
emphasis characters and opening brackets. Code, formulas, addresses in angle brackets and HTML
bind tightest and are pieces at once. A closing bracket makes a link or an image of the pieces
behind the last opening one if a destination or a defined label follows; otherwise both brackets
are text. Emphasis is matched inside a link when it is made and in the whole text at its end.

A short label can stand for a long destination any number of times. So that a document does not
grow out of bounds when it is read, its definitions are used only while their targets fit into an
allowance, which is passed on from text to text.
-/

namespace DocBridge.Markdown

open Text

/-- An opening bracket. -/
structure Bracket where
  isImage : Bool
  /-- The text behind the bracket. -/
  behind : List Char
  /-- Whether another opening bracket came later. -/
  isFollowed : Bool

def Bracket.text (bracket : Bracket) : Inline := .text (if bracket.isImage then "![" else "[")

inductive Piece where
  | inline (i : Inline)
  | run (run : Run)
  | bracket (bracket : Bracket)

/-- A bracket that is still open counts as text. -/
def Piece.resolvable : Piece → Inline ⊕ Run
  | inline i => .inl i
  | run r => .inr r
  | bracket b => .inl b.text

/-- Kinds of HTML that were found unclosed and are not looked for again. -/
structure Unclosed where
  comment : Bool
  data : Bool
  instruction : Bool

/-- The pieces read so far, the latest first. -/
structure Reading where
  pieces : List Piece
  /-- A link has been made since the last bracket that may open one. -/
  isAfterLink : Bool
  unclosed : Unclosed
  backticks : Verbatim.Backticks
  /-- How many bytes of defined targets may still be used. -/
  allowance : Nat

namespace Reading

def empty (allowance : Nat) : Reading := ⟨[], true, ⟨false, false, false⟩, .empty, allowance⟩

def add (piece : Piece) (r : Reading) : Reading := { r with pieces := piece :: r.pieces }

def addInline (i : Inline) (r : Reading) : Reading := r.add (.inline i)

def addText (s : List Char) (r : Reading) : Reading := r.addInline (.text (String.ofList s))

def isAfterLineBreak (r : Reading) : Bool :=
  match r.pieces with
  | .inline .lineBreak :: _ => true
  | _ => false

/-- Records that the last opening bracket has another one behind it. -/
def markFollowed : List Piece → List Piece
  | [] => []
  | .bracket b :: rest => .bracket { b with isFollowed := true } :: rest
  | piece :: rest => piece :: markFollowed rest

def openBracket (isImage : Bool) (behind : List Char) (r : Reading) : Reading :=
  { r with
    pieces := .bracket ⟨isImage, behind, false⟩ :: markFollowed r.pieces
    isAfterLink := isImage && r.isAfterLink }

/-- The last opening bracket, the pieces behind it in their order and those before it. -/
def lastBracket? (behind : List Piece) : List Piece → Option (List Piece × Bracket × List Piece)
  | [] => none
  | .bracket b :: rest => some (behind, b, rest)
  | piece :: rest => lastBracket? (piece :: behind) rest

/-! ## Angle brackets -/

/-- An address with a scheme, up to the closing bracket. -/
def uri? (s : List Char) : Option (List Char × List Char) :=
  let scheme := s.takeWhile fun c => c.isAlphanum || c == '+' || c == '.' || c == '-'
  let rest := s.drop scheme.length
  let path := (rest.drop 1).takeWhile fun c => 0x20 < c.toNat && c != '<' && c != '>'
  match rest.drop (1 + path.length) with
  | '>' :: after =>
    if (scheme.head?.map Char.isAlpha).getD false ∧ 2 ≤ scheme.length ∧ scheme.length ≤ 32 ∧
        rest.head? = some ':' then
      some (s.take (scheme.length + 1 + path.length), after)
    else none
  | _ => none

def isMailCharacter (c : Char) : Bool :=
  c.isAlphanum || ".!#$%&'*+/=?^_`\x7b|\x7d~-".toList.contains c

/-- A part of a host name: letters, digits and hyphens, with no hyphen at an end. -/
def isHostLabel (s : List Char) : Bool :=
  s.length ≤ 63 && s.all (fun c => c.isAlphanum || c == '-') &&
    (s.head?.map Char.isAlphanum).getD false && (s.getLast?.map Char.isAlphanum).getD false

/-- A mail address, up to the closing bracket. -/
def mail? (s : List Char) : Option (List Char × List Char) :=
  let name := s.takeWhile isMailCharacter
  match s.drop name.length with
  | '@' :: rest =>
    let host := rest.takeWhile (· != '>')
    match rest.drop host.length with
    | '>' :: after =>
      if ¬ name.isEmpty ∧ (splitAt '.' host).all isHostLabel then some (name ++ '@' :: host, after)
      else none
    | _ => none
  | _ => none

def addressLink (start : String) (address : List Char) : Inline :=
  let text := String.ofList (Entity.resolve address)
  .link (start ++ text) "" [.text text]

/-- HTML after an opening bracket: what follows it, and what is unclosed now. -/
def html? (unclosed : Unclosed) (s : List Char) : Option (List Char) × Unclosed :=
  match s with
  | '!' :: '-' :: '-' :: rest =>
    if unclosed.comment then (none, unclosed)
    else
      match Html.comment? rest with
      | some after => (some after, unclosed)
      | none => (none, { unclosed with comment := true })
  | '!' :: rest =>
    if unclosed.comment then (none, unclosed)
    else if Html.startsWith Html.dataMark rest then
      if unclosed.data then (none, unclosed)
      else
        match Html.dataEnd? (rest.drop Html.dataMark.length) with
        | some after => (some after, unclosed)
        | none => (none, { unclosed with data := true })
    else (Html.declaration? rest, unclosed)
  | '?' :: rest =>
    if unclosed.instruction then (none, unclosed)
    else
      match Html.instructionEnd? rest with
      | some after => (some after, unclosed)
      | none => (none, { unclosed with instruction := true })
  | s => (Html.tag? s, unclosed)

/-- What an opening angle bracket begins; alone it is text. -/
def angle (s : List Char) (r : Reading) : Reading × List Char :=
  match uri? s with
  | some (address, rest) => (r.addInline (addressLink "" address), rest)
  | none =>
    match mail? s with
    | some (address, rest) => (r.addInline (addressLink "mailto:" address), rest)
    | none =>
      match html? r.unclosed s with
      | (some rest, unclosed) => ({ r with unclosed }.addInline .html, rest)
      | (none, unclosed) => ({ r with unclosed }.addText ['<'], s)

/-! ## Links -/

def skipBlanks (s : List Char) : List Char := s.dropWhile isAsciiBlank

/-- A title with blanks before it. Without a title the blanks are skipped. -/
def linkTitle (s : List Char) : List Char × List Char :=
  let rest := skipBlanks s
  if rest.length = s.length then ([], s) else (Link.title? rest).getD ([], rest)

/-- A destination and a title in parentheses. -/
def inlineTarget? : List Char → Option (Target × List Char)
  | '(' :: s =>
    match Link.destination? (skipBlanks s) with
    | some (url, rest) =>
      let (title, rest) := linkTitle rest
      match skipBlanks rest with
      | ')' :: rest => some (⟨Link.cleanDestination url, Link.cleanTitle title⟩, rest)
      | _ => none
    | none => none
  | _ => none

/-- The target that a label defines: a label that follows, or the text in the brackets itself when
none follows or an empty one does. Text with brackets of its own is no label. -/
def definedTarget? (references : References) (bracket : Bracket) (s : List Char) :
    Option (Target × List Char) :=
  let own := bracket.behind.take (bracket.behind.length - s.length - 1)
  let find (label rest : List Char) : Option (Target × List Char) :=
    (references.find? label).map fun target => (target, rest)
  match Link.label? s with
  | some (label, rest) =>
    if label.isEmpty ∧ ¬ bracket.isFollowed then find own rest else find label rest
  | none => if bracket.isFollowed then none else find own s

/-- Where brackets lead, with what follows and the allowance that is left. A defined target that
does not fit into the allowance is none. -/
def target? (references : References) (bracket : Bracket) (allowance : Nat) (s : List Char) :
    Option (Target × List Char × Nat) :=
  match inlineTarget? s with
  | some (target, rest) => some (target, rest, allowance)
  | none => do
    let (target, rest) ← definedTarget? references bracket s
    guard (target.size ≤ allowance)
    some (target, rest, allowance - target.size)

/-- A closing bracket, with what follows it. -/
def closeBracket (references : References) (s : List Char) (r : Reading) : Reading × List Char :=
  match lastBracket? [] r.pieces with
  | none => (r.addText [']'], s)
  | some (behind, bracket, before) =>
    let asText := { r with
      pieces := .inline (.text "]") :: (behind.reverse ++ .inline bracket.text :: before) }
    if !bracket.isImage && r.isAfterLink then (asText, s)
    else
      match target? references bracket r.allowance s with
      | none => (asText, s)
      | some (target, rest, allowance) =>
        let children := Emphasis.resolve (behind.map Piece.resolvable)
        let made := if bracket.isImage then Inline.image target.url target.title children
          else .link target.url target.title children
        ({ r with
          pieces := .inline made :: before
          isAfterLink := r.isAfterLink || !bracket.isImage
          allowance }, rest)

/-! ## Pieces -/

/-- The characters that are more than text. -/
def isSpecial (c : Char) : Bool := "\n_*`\\&<[]!$".toList.contains c

/-- A line end after a line of text. Two spaces before it make a break. -/
def lineEnd (input rest : List Char) (r : Reading) : Reading × List Char :=
  let before := input.take (input.length - rest.length - 1)
  let isHard := (before.reverse.take 2) == [' ', ' ']
  (r.addInline (if isHard then .lineBreak else .softBreak), rest.dropWhile isSpaceOrTab)

def backslash (s : List Char) (r : Reading) : Reading × List Char :=
  match s with
  | '\n' :: rest => (r.addInline .lineBreak, rest)
  | c :: rest => if isAsciiPunctuation c then (r.addText [c], rest) else (r.addText ['\\'], s)
  | [] => (r.addText ['\\'], s)

/-- A run of emphasis characters that begins a text. -/
def emphasisRun (input s : List Char) (c : Char) (r : Reading) : Reading × List Char :=
  let length := (s.takeWhile (· == c)).length
  let rest := s.drop length
  let before := ((input.take (input.length - s.length)).getLast?).getD '\n'
  let run := Run.between before (rest.head?.getD '\n') c length
  (if run.canOpen || run.canClose then r.add (.run run) else r.addInline run.text, rest)

/-- Text up to the next special character. Blanks at a line end are dropped, and so are those
after a line break. -/
def plain (s : List Char) (r : Reading) : Reading × List Char :=
  let text := s.takeWhile (!isSpecial ·)
  let rest := s.drop text.length
  let text := if rest.head? = some '\n' then dropRightWhile isSpacing text else text
  (r.addText (if r.isAfterLineBreak then text.dropWhile isSpacing else text), rest)

/-- What is found in the text behind a run of characters, or else the run as text. -/
def addFound (run rest : List Char) (found? : Option (Inline × List Char)) (r : Reading) :
    Reading × List Char :=
  match found? with
  | some (i, rest) => (r.addInline i, rest)
  | none => (r.addText run, rest)

def code (s : List Char) (r : Reading) : Reading × List Char :=
  let (run, rest) := s.span (· == '`')
  let (found?, backticks) := r.backticks.code? run.length rest
  { r with backticks }.addFound run rest found?

def formula (s : List Char) (r : Reading) : Reading × List Char :=
  let (run, rest) := s.span (· == '$')
  r.addFound run rest (Verbatim.formula? run.length rest)

/-- Reads the next piece of a text that is not empty. -/
def next (references : References) (input s : List Char) (r : Reading) : Reading × List Char :=
  match s with
  | '\n' :: rest => r.lineEnd input rest
  | '`' :: _ => r.code s
  | '$' :: _ => r.formula s
  | '\\' :: rest => r.backslash rest
  | '&' :: rest =>
    match Entity.read? rest with
    | some (cs, rest) => (r.addText cs, rest)
    | none => (r.addText ['&'], rest)
  | '<' :: rest => r.angle rest
  | '[' :: rest => (r.openBracket false rest, rest)
  | '!' :: '[' :: rest =>
    if rest.head? = some '^' then (r.addText ['!'], '[' :: rest)
    else (r.openBracket true rest, rest)
  | '!' :: rest => (r.addText ['!'], rest)
  | ']' :: rest => r.closeBracket references rest
  | c :: _ => if c = '*' ∨ c = '_' then r.emphasisRun input s c else r.plain s
  | [] => (r, [])

/-- Reads at most so many pieces. -/
def readWithin (references : References) (input : List Char) : Nat → List Char → Reading → Reading
  | 0, _, r => r
  | bound + 1, s, r =>
    if s.isEmpty then r
    else
      let (r, rest) := r.next references input s
      readWithin references input bound rest r

end Reading

/-- The inlines of a text. Every piece takes at least one character, so there are no more pieces
than characters. The state is the allowance for defined targets. -/
def readInlines (references : References) (text : List Char) : StateM Nat (List Inline) :=
  fun allowance =>
    let input := dropRightWhile isSpacing text
    let r := Reading.readWithin references input input.length input (.empty allowance)
    (Emphasis.resolve (r.pieces.reverse.map Piece.resolvable), r.allowance)

end DocBridge.Markdown

import DocBridge.Decimal.Layout
import DocBridge.Json.Value
import DocBridge.Text.LowerCase
import DocBridge.Toml.Value

/-!
# Configuration values

What a configuration holds, be it read from TOML or given as JSON, and how it is taken for the
kind of value that is wanted. A text may be given as a boolean or a number, a boolean as a number
or a word, a natural number as any of these. A record is a table of its fields or the list of them
in order.
-/

namespace DocBridge.Config

inductive Value where
  | null
  | boolean (b : Bool)
  | integer (n : Int)
  | real (x : Toml.Real)
  | text (s : String)
  | list (items : List Value)
  | table (entries : List (String × Value))

namespace Value

mutual

def ofToml : Toml.Value → Value
  | .string s => text s
  | .integer n => integer n
  | .real x => real x
  | .boolean b => boolean b
  | .moment m => text m.text
  | .array items => list (ofTomlItems items)
  | .table entries => table (ofTomlEntries entries)

def ofTomlItems : List Toml.Value → List Value
  | [] => []
  | v :: rest => ofToml v :: ofTomlItems rest

def ofTomlEntries : List (String × Toml.Value) → List (String × Value)
  | [] => []
  | (key, v) :: rest => (key, ofToml v) :: ofTomlEntries rest

end

mutual

def ofJson : Json.Value → Value
  | .null => null
  | .boolean b => boolean b
  | .number (.integer n) => integer n
  | .number (.real x) => real (.finite x)
  | .string s => text s
  | .array items => list (ofJsonItems items)
  | .object members => table (ofJsonMembers members)

def ofJsonItems : List Json.Value → List Value
  | [] => []
  | v :: rest => ofJson v :: ofJsonItems rest

def ofJsonMembers : List (String × Json.Value) → List (String × Value)
  | [] => []
  | (key, v) :: rest => (key, ofJson v) :: ofJsonMembers rest

end

/-! ## Kinds of values -/

/-- All digits of a double, and no point in a whole number. Of two equally near decimals the one
farther from zero is written. -/
def realLayout : Decimal.Layout := ⟨fun _ => true, false, .greater⟩

def realText : Toml.Real → String
  | .finite x => realLayout.write x
  | .infinite negative => if negative then "-inf" else "inf"
  | .notNumber => "NaN"

def text? : Value → Option String
  | text s => some s
  | boolean b => some (toString b)
  | integer n => some (toString n)
  | real x => some (realText x)
  | _ => none

def isYes (word : String) : Bool := word = "true" || word = "on" || word = "yes"

def isNo (word : String) : Bool := word = "false" || word = "off" || word = "no"

/-- A number is false when it is zero. A word counts in any case. -/
def boolean? : Value → Option Bool
  | boolean b => some b
  | integer n => some (n != 0)
  | real (.finite x) => some !x.isZero
  | real _ => some true
  | text s =>
    let word := Text.lower s
    if word = "1" || isYes word then some true
    else if word = "0" || isNo word then some false
    else none
  | _ => none

/-- The number that decimal digits spell, perhaps after a plus sign. -/
def spelled? (s : List Char) : Option Nat :=
  let digits := match s with
    | '+' :: rest => rest
    | s => s
  if digits ≠ [] ∧ digits.all Char.isDigit then some (Text.valueOf 10 digits) else none

/-- A natural number of at most 64 bits. A double is rounded, a half away from zero, and taken for
the nearest number there is. -/
def natural? : Value → Option Nat
  | boolean b => some b.toNat
  | integer n => if 0 ≤ n ∧ n < UInt64.size then some n.toNat else none
  | real (.finite x) => some (min x.roundHalfAway.toNat (UInt64.size - 1))
  | real (.infinite negative) => some (if negative then 0 else UInt64.size - 1)
  | real .notNumber => some 0
  | text s =>
    let word := Text.lower s
    if isYes word then some 1
    else if isNo word then some 0
    else (spelled? s.toList).filter (· < UInt64.size)
  | _ => none

/-- The one character of a text. -/
def character? : Value → Option Char
  | text s =>
    match s.toList with
    | [c] => some c
    | _ => none
  | _ => none

def list? : Value → Option (List Value)
  | list items => some items
  | _ => none

/-- What a record has for each of its fields. -/
def fields? (names : List String) : Value → Option (List (Option Value))
  | table entries => some (names.map (Dictionary.find? entries ·))
  | list items => some ((List.range names.length).map (items[·]?))
  | _ => none

/-- A field that has to be there. -/
def required? {α : Type} (read : Value → Option α) (field : Option Value) : Option α :=
  field.bind read

/-- A field that may be missing. -/
def optional? {α : Type} (read : Value → Option α) (missing : α) : Option Value → Option α
  | none => some missing
  | some v => read v

/-- Reads each item of a list. -/
def listOf? {α : Type} (read : Value → Option α) (v : Value) : Option (List α) :=
  v.list?.bind fun items => items.mapM read

/-- A value that null stands for the absence of. -/
def nullable? {α : Type} (read : Value → Option α) : Value → Option (Option α)
  | null => some none
  | v => (read v).map some

end Value

end DocBridge.Config

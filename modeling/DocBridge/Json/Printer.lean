import DocBridge.Decimal.Layout
import DocBridge.Json.Value

/-!
# Writing JSON

Values are written compactly, without blanks, or prettily, with every item and member on a line of
its own and two spaces for each level. Both forms share the scalars: strings escape quotes, the
backslash and control characters and nothing else.
-/

namespace DocBridge.Json

namespace Printer

/-- Doubles are positional from `0.00001` up to sixteen digits before the point, and show a point.
Of two equally near decimals the one with an even last digit is written. -/
def realLayout : Decimal.Layout := ⟨fun e => -5 ≤ e ∧ e ≤ 15, true, .even⟩

def hexDigit (n : Nat) : Char := (Nat.toDigits 16 n).headD '0'

def escape (c : Char) : List Char :=
  match c with
  | '"' => ['\\', '"']
  | '\\' => ['\\', '\\']
  | '\x08' => ['\\', 'b']
  | '\x0c' => ['\\', 'f']
  | '\n' => ['\\', 'n']
  | '\r' => ['\\', 'r']
  | '\t' => ['\\', 't']
  | c =>
    if c.toNat < 0x20 then ['\\', 'u', '0', '0', hexDigit (c.toNat / 16), hexDigit (c.toNat % 16)]
    else [c]

def quote (s : String) : String := "\"" ++ String.ofList (s.toList.flatMap escape) ++ "\""

def number : Number → String
  | .integer n => toString n
  | .real x => realLayout.write x

def scalar : Value → String
  | .boolean b => if b then "true" else "false"
  | .number n => number n
  | .string s => quote s
  | _ => "null"

/-- A line break and the blanks of a level. -/
def newline (level : Nat) : String := "\n" ++ String.ofList (List.replicate (2 * level) ' ')

mutual

def compact : Value → String
  | .array [] => "[]"
  | .array (v :: rest) => "[" ++ compact v ++ compactItems rest ++ "]"
  | .object [] => "\x7b\x7d"
  | .object ((k, v) :: rest) =>
    "\x7b" ++ quote k ++ ":" ++ compact v ++ compactMembers rest ++ "\x7d"
  | v => scalar v

def compactItems : List Value → String
  | [] => ""
  | v :: rest => "," ++ compact v ++ compactItems rest

def compactMembers : List (String × Value) → String
  | [] => ""
  | (k, v) :: rest => "," ++ quote k ++ ":" ++ compact v ++ compactMembers rest

end

mutual

def pretty (level : Nat) : Value → String
  | .array [] => "[]"
  | .array (v :: rest) =>
    "[" ++ newline (level + 1) ++ pretty (level + 1) v ++ prettyItems (level + 1) rest ++
      newline level ++ "]"
  | .object [] => "\x7b\x7d"
  | .object ((k, v) :: rest) =>
    "\x7b" ++ newline (level + 1) ++ quote k ++ ": " ++ pretty (level + 1) v ++
      prettyMembers (level + 1) rest ++ newline level ++ "\x7d"
  | v => scalar v

def prettyItems (level : Nat) : List Value → String
  | [] => ""
  | v :: rest => "," ++ newline level ++ pretty level v ++ prettyItems level rest

def prettyMembers (level : Nat) : List (String × Value) → String
  | [] => ""
  | (k, v) :: rest =>
    "," ++ newline level ++ quote k ++ ": " ++ pretty level v ++ prettyMembers level rest

end

end Printer

namespace Value

/-- The text of a value without blanks. -/
def compact (v : Value) : String := Printer.compact v

/-- The text of a value spread over lines. -/
def pretty (v : Value) : String := Printer.pretty 0 v

end Value

end DocBridge.Json

import DocBridge.Markdown.Document
import DocBridge.Text.Ascii

/-!
# Code and formulas

Code stands between two runs of backticks of one length, a formula between two runs of one or two
dollars. What stands between them is taken as it is. A run without a partner is text.
-/

namespace DocBridge.Markdown.Verbatim

open Text

/-- The runs of a character in a text: how long each is, and how much text there is from it on. -/
def runs (c : Char) : List Char → List (Nat × Nat)
  | [] => []
  | d :: rest =>
    if d ≠ c then runs c rest
    else
      match runs c rest with
      | (length, left) :: others =>
        if left = rest.length then (length + 1, left + 1) :: others
        else (1, rest.length + 1) :: (length, left) :: others
      | [] => [(1, rest.length + 1)]

/-- What stands before the first run of exactly so many characters, and what follows it. -/
def closingRun? (c : Char) (length : Nat) (s : List Char) : Option (List Char × List Char) :=
  ((runs c s).find? (·.1 == length)).map fun (_, left) =>
    (s.take (s.length - left), s.drop (s.length - left + length))

/-- Line feeds become spaces, and one space is taken from each end when both have one and something
else is there. -/
def normalize (s : List Char) : List Char :=
  let s := s.map fun c => if c = '\n' then ' ' else c
  if s.head? = some ' ' ∧ s.getLast? = some ' ' ∧ ¬ s.all (· == ' ') then (s.drop 1).dropLast else s

/-! ## Code -/

/-- How long a run of backticks around code may be. -/
def longestFence : Nat := 80

/-- The runs of backticks that searches for the end of code have met. A search ends at the run that
closes the code, or else has met all runs to the end of the text. Once one has met them all, code
begins only where the run of its length that was met last still lies ahead. -/
structure Backticks where
  /-- The runs by their lengths, the latest first, with how much text there is from each on. -/
  met : List (Nat × Nat)
  metAll : Bool

namespace Backticks

def empty : Backticks := ⟨[], false⟩

/-- Whether code may begin before a text, behind a run of some length. -/
def mayOpen (backticks : Backticks) (length : Nat) (s : List Char) : Bool :=
  length ≤ longestFence &&
    (!backticks.metAll || (backticks.met.lookup length).any (· < s.length))

/-- Adds the runs that a search in a text meets. -/
def search (backticks : Backticks) (length : Nat) (s : List Char) : Backticks :=
  let runs := runs '`' s
  let others := runs.takeWhile (·.1 != length)
  let closing? := (runs.drop others.length).head?
  { met := closing?.toList ++ others.reverse ++ backticks.met
    metAll := backticks.metAll || closing?.isNone }

/-- Code behind a run of backticks. -/
def code? (backticks : Backticks) (length : Nat) (s : List Char) :
    Option (Inline × List Char) × Backticks :=
  if backticks.mayOpen length s then
    let found? := (closingRun? '`' length s).map fun (content, rest) =>
      (Inline.code (String.ofList (normalize content)), rest)
    (found?, backticks.search length s)
  else (none, backticks)

end Backticks

/-! ## Formulas -/

/-- The text up to a dollar that closes a formula opened by one dollar, and what follows. The dollar
has no blank before it and no digit after it; one after a backslash does not count. -/
def closingDollar? (previous : Char) : Nat → List Char → Option (List Char × List Char)
  | 0, _ => none
  | bound + 1, s =>
    let content := s.takeWhile (· != '$')
    let rest := s.drop content.length
    let last := content.getLast?.getD previous
    let run := rest.takeWhile (· == '$')
    if run.isEmpty ∨ isSpacing last then none
    else
      let run := if last = '\\' then ['$'] else run
      let after := rest.drop run.length
      if last ≠ '\\' ∧ (after.head?.map Char.isDigit).getD false then none
      else if last ≠ '\\' ∧ run.length = 1 then some (content, after)
      else (closingDollar? '$' bound after).map fun (more, left) => (content ++ run ++ more, left)

/-- A formula after a run of one or two dollars. -/
def formula? (length : Nat) (s : List Char) : Option (Inline × List Char) :=
  match length with
  | 1 =>
    if (s.head?.map isSpacing).getD false then none
    else
      match closingDollar? '$' (s.length + 1) s with
      | some (content, rest) =>
        if content.isEmpty then none
        else some (.math false (String.ofList (normalize content)), rest)
      | none => none
  | 2 =>
    match closingRun? '$' 2 s with
    | some (content, rest) =>
      if content.isEmpty then none else some (.math true (String.ofList content), rest)
    | none => none
  | _ => none

end DocBridge.Markdown.Verbatim

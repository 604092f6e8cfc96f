import DocBridge.Markdown.Document
import DocBridge.Text.Blank
import DocBridge.Text.Punctuation

/-!
# Emphasis

Runs of `*` and `_` open and close emphasis. Whether a run can do either depends on the characters
around it. Runs are matched from left to right: a run that can close takes the nearest run before it
that can open, two characters of each for strong emphasis if both have them and one otherwise, as
long as both last. Runs in between, and what is left of runs, are text.

When either of two runs can both open and close, they do not match if their lengths together are a
multiple of three and not both are.
-/

namespace DocBridge.Markdown

open Text

/-- A run of emphasis characters, some of which may be used already. -/
structure Run where
  character : Char
  length : Nat
  left : Nat
  canOpen : Bool
  canClose : Bool

namespace Run

/-- The run between two characters. -/
def between (before after character : Char) (length : Nat) : Run :=
  let leftFlanking :=
    !isBlank after && (!isPunctuation after || isBlank before || isPunctuation before)
  let rightFlanking :=
    !isBlank before && (!isPunctuation before || isBlank after || isPunctuation after)
  let inWords := character != '_'
  { character, length, left := length
    canOpen := leftFlanking && (inWords || !rightFlanking || isPunctuation before)
    canClose := rightFlanking && (inWords || !leftFlanking || isPunctuation after) }

def text (run : Run) : Inline := .text (String.ofList (List.replicate run.left run.character))

def matchesOpener (closer opener : Run) : Bool :=
  opener.canOpen && opener.character == closer.character &&
    !((closer.canOpen || opener.canClose) && (opener.length + closer.length) % 3 == 0 &&
      !(opener.length % 3 == 0 && closer.length % 3 == 0))

end Run

/-- A run that matches a closing one, with what stands after it and what stands before it, the
latest first. -/
structure Opening where
  after : List (Inline ⊕ Run)
  run : Run
  before : List (Inline ⊕ Run)

namespace Emphasis

/-- Runs that match nothing are text. -/
def toInline : Inline ⊕ Run → Inline
  | .inl i => i
  | .inr run => run.text

/-- The nearest run that a closing one matches, before some pieces that it does not match. -/
def opening? (closer : Run) (after : List (Inline ⊕ Run)) :
    (before : List (Inline ⊕ Run)) → Option Opening
  | [] => none
  | .inl i :: rest => opening? closer (.inl i :: after) rest
  | .inr run :: rest =>
    if closer.matchesOpener run then some ⟨after, run, rest⟩
    else opening? closer (.inr run :: after) rest

/-- Uses a closing run as often as it matches. What is left of it may open emphasis itself. -/
def close : (bound : Nat) → Run → List (Inline ⊕ Run) → List (Inline ⊕ Run)
  | 0, _, before => before
  | bound + 1, closer, before =>
    if closer.left = 0 then before
    else
      match opening? closer [] before with
      | none => (if closer.canOpen then .inr closer else .inl closer.text) :: before
      | some opening =>
        let used := if 2 ≤ closer.left ∧ 2 ≤ opening.run.left then 2 else 1
        let children := opening.after.map toInline
        let emphasis := if used = 2 then Inline.strong children else .emph children
        let opener : Run := { opening.run with left := opening.run.left - used }
        let before := if opener.left = 0 then opening.before else .inr opener :: opening.before
        close bound { closer with left := closer.left - used } (.inl emphasis :: before)

/-- Matches the runs among pieces that follow others, the latest of which comes first. -/
def resolveBehind (before : List (Inline ⊕ Run)) : List (Inline ⊕ Run) → List (Inline ⊕ Run)
  | [] => before
  | .inr run :: rest =>
    resolveBehind (if run.canClose then close (run.left + 1) run before else .inr run :: before)
      rest
  | piece :: rest => resolveBehind (piece :: before) rest

/-- Inlines with the emphasis that the runs among them make. -/
def resolve (pieces : List (Inline ⊕ Run)) : List Inline :=
  (resolveBehind [] pieces).reverse.map toInline

end Emphasis

end DocBridge.Markdown

/-!
# Splitting texts

A text is split at every occurrence of a separator, so it has one part more than it has separators
and the empty text is one empty part. The lines of a text are its parts between line feeds; joining
them again gives the text.
-/

namespace DocBridge.Text

/-- The parts of a sequence of characters between the separators. -/
def splitAt (separator : Char) : List Char → List (List Char)
  | [] => [[]]
  | c :: rest =>
    if c = separator then [] :: splitAt separator rest
    else
      match splitAt separator rest with
      | [] => [[c]]
      | part :: others => (c :: part) :: others

def split (separator : Char) (s : String) : List String :=
  (splitAt separator s.toList).map String.ofList

def lines (s : String) : List String := split '\n' s

def joinLines (lines : List String) : String := String.intercalate "\n" lines

theorem splitAt_ne_nil (separator : Char) (s : List Char) : splitAt separator s ≠ [] := by
  cases s with
  | nil => simp [splitAt]
  | cons c rest =>
    unfold splitAt
    split
    · simp
    · split <;> simp

end DocBridge.Text

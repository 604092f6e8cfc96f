import DocBridge.Files.Fault
import DocBridge.Text.Lines

/-!
# Paths

A path is a text that slashes divide into steps. Empty steps and `.` stay where they are, `..` goes
up. What a path is called, its extension and the path of an entry below it are read off the text
alone, whatever stands there. Paths and the names in them may be only so long. A file system may
also have names whose bytes are no text; there are none of these here.
-/

namespace DocBridge.Files

abbrev Path := String

namespace Path

/-- The names between slashes. A path that ends in a slash has an empty last step. -/
def steps (path : Path) : List String := Text.split '/' path

def isAbsolute (path : Path) : Bool := path.toList.head? = some '/'

/-- How many bytes a path may have. -/
def longest : Nat := 4095

/-- How many bytes a name may have. -/
def longestName : Nat := 255

/-- Refuses a path that leads nowhere, whatever is stored. -/
def check (path : Path) : Except Fault Unit :=
  if path.contains '\x00' then .error .nullInPath
  else if path = "" then .error .notFound
  else if longest < path.utf8ByteSize then .error .nameTooLong
  else .ok ()

/-- A step that stays where it is. -/
def isStill (step : String) : Bool := step = "" || step = "."

/-- The name that the last step gives. Steps that stay are passed over; one that goes up gives
none. -/
def fileName? (path : Path) : Option String :=
  match (steps path).reverse.dropWhile isStill with
  | [] => none
  | step :: _ => if step = ".." then none else some step

/-- What follows the last point of a name, unless the name has no other character before it. -/
def extensionOf? (name : List Char) : Option (List Char) :=
  let fromEnd := name.reverse
  let after := fromEnd.takeWhile (· ≠ '.')
  match fromEnd.dropWhile (· ≠ '.') with
  | [] => none
  | [_] => none
  | _ :: _ => some after.reverse

def extension? (path : Path) : Option String :=
  (fileName? path).bind fun name => (extensionOf? name.toList).map String.ofList

/-- The path of an entry of a directory. -/
def join (directory : Path) (name : String) : Path :=
  if directory = "" || directory.toList.getLast? = some '/' then directory ++ name
  else directory ++ "/" ++ name

/-- The path with a suffix written after its name, without the steps that stay behind the name. A
path without a name cannot be extended. -/
def extended? (path : Path) (suffix : String) : Option Path :=
  (fileName? path).map fun _ =>
    String.intercalate "/" ((steps path).reverse.dropWhile isStill).reverse ++ suffix

end Path

end DocBridge.Files

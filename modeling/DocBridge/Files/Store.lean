import DocBridge.Dictionary
import DocBridge.Files.Fault
import DocBridge.Files.Path

/-!
# Stored files

A directory holds its entries in the order of their names; an entry is a file with its bytes or a
directory again. A store is the directory above all others, with the way from it to the working
directory, where paths start that do not begin with a slash.
-/

namespace DocBridge.Files

inductive Entry where
  | file (bytes : ByteArray)
  | directory (entries : List (String × Entry))

abbrev Directory := Dictionary Entry

structure Store where
  root : Directory
  /-- The names on the way from the root to the working directory. -/
  working : List String := []

/-- A directory that a path has led to, with the directories entered on the way, the latest first,
each beside the name under which it holds the one entered from it. -/
structure Place where
  here : Directory
  around : List (String × Directory) := []

namespace Place

/-- The directory above. The root is above itself. -/
def up (place : Place) : Place :=
  match place.around with
  | (_, outer) :: around => ⟨outer, around⟩
  | [] => place

/-- What has a name here, if anything does. -/
def find (place : Place) (name : String) : Except Fault (Option Entry) :=
  if Path.longestName < name.utf8ByteSize then .error .nameTooLong
  else .ok (place.here.find? name)

def enter (place : Place) (step : String) : Except Fault Place := do
  if Path.isStill step then return place
  if step = ".." then return place.up
  match ← place.find step with
  | none => .error .notFound
  | some (.file _) => .error .notDirectory
  | some (.directory entries) => return ⟨entries, (step, place.here) :: place.around⟩

/-- The root, with a changed directory in this place. -/
def rebuild (place : Place) (here : Directory) : Directory :=
  place.around.foldl (fun inner (name, outer) => outer.insert name (.directory inner)) here

end Place

namespace Store

/-- The place that steps lead to, from the root if the path begins with a slash. -/
def follow (store : Store) (path : Path) (steps : List String) : Except Fault Place := do
  let start := if Path.isAbsolute path then [] else store.working
  (start ++ steps).foldlM Place.enter { here := store.root }

/-- The entry at a path. -/
def entryAt (store : Store) (path : Path) : Except Fault Entry := do
  path.check
  let steps := Path.steps path
  let last := steps.getLast?.getD ""
  let place ← store.follow path steps.dropLast
  if Path.isStill last then return .directory place.here
  if last = ".." then return .directory place.up.here
  match ← place.find last with
  | some entry => return entry
  | none => .error .notFound

/-- The text of the file at a path. -/
def read (store : Store) (path : Path) : Except Fault String := do
  match ← store.entryAt path with
  | .directory _ => .error .isDirectory
  | .file bytes =>
    match String.fromUTF8? bytes with
    | some text => .ok text
    | none => .error .notText

/-- The entries of the directory at a path. -/
def list (store : Store) (path : Path) : Except Fault Directory := do
  match ← store.entryAt path with
  | .directory entries => .ok entries
  | .file _ => .error .notDirectory

def isFile (store : Store) (path : Path) : Bool :=
  match store.entryAt path with
  | .ok (.file _) => true
  | _ => false

/-- Writes a file, over any that stands at the path. The directory around it has to be there. -/
def write (store : Store) (path : Path) (text : String) : Except Fault Store := do
  path.check
  let fromEnd := (Path.steps path).reverse
  match fromEnd.dropWhile (· = "") with
  | [] => .error .isDirectory
  | last :: before =>
    let place ← store.follow path before.reverse
    if fromEnd.head? = some "" || Path.isStill last || last = ".." then .error .isDirectory
    match ← place.find last with
    | some (.directory _) => .error .isDirectory
    | _ =>
      let here := place.here.insert last (.file text.toUTF8)
      return { store with root := place.rebuild here }

/-- A directory with an entry put below it, at the end of directories that are made where they are
missing. -/
def putBelow (entry : Entry) : List String → Directory → Directory
  | [], directory => directory
  | [name], directory => directory.insert name entry
  | name :: rest, directory =>
    let inner := match directory.find? name with
      | some (.directory entries) => entries
      | _ => []
    directory.insert name (.directory (putBelow entry rest inner))

/-- Puts an entry at the end of names that lead to it from the root. -/
def put (store : Store) (names : List String) (entry : Entry) : Store :=
  { store with root := putBelow entry names store.root }

end Store

end DocBridge.Files

import DocBridge.Plugin.Manifest

/-!
# Discovering plugins

Directories are searched for manifests, at any depth and in the order of names, whatever the order
is in which a directory gives its entries. Private files and directories are passed over, and so are
directories for tests; the directory where a search starts is searched whatever it is called. A
search that comes to something it cannot read fails.
-/

namespace DocBridge.Discovery

def isPrivate (name : String) : Bool :=
  match name.toList with
  | c :: _ => c = '_' || c = '.'
  | [] => false

def isSkipped (name : String) : Files.Entry → Bool
  | .file _ => isPrivate name
  | .directory _ => isPrivate name || Text.occursIn "test".toList name.toList

/-- What a search comes to on its walk through directories. -/
structure Visit where
  path : Files.Path
  isFile : Bool

def byName {α : Type} (e f : String × α) : Bool := e.1 ≤ f.1

mutual

/-- What a walk comes to at a path and, in the order of names, below it. -/
def visitsAt (path : Files.Path) : Files.Entry → List Visit
  | .file _ => [⟨path, true⟩]
  | .directory entries =>
    ⟨path, false⟩ :: ((visitsAmong path entries).mergeSort byName).flatMap Prod.snd

/-- The walks through the entries of a directory, beside the names. None goes through an entry that
is skipped. -/
def visitsAmong (directory : Files.Path) :
    List (String × Files.Entry) → List (String × List Visit)
  | [] => []
  | (name, entry) :: rest =>
    (name, if isSkipped name entry then [] else visitsAt (Files.Path.join directory name) entry) ::
      visitsAmong directory rest

end

/-- A walk from a path on. Where it cannot go on stands the path, as far as it is known. -/
def walk (files : Files.Store) (path : Files.Path) : List (Except (Option Files.Path) Visit) :=
  match files.entryAt path with
  | .error _ => [.error (some path)]
  | .ok entry => (visitsAt path entry).map .ok

def Visit.manifest? (visit : Visit) : Option Files.Path :=
  if visit.isFile && Files.Path.extension? visit.path = some "toml" then some visit.path else none

/-- The manifests below a directory. A walk that cannot go on fails the search. -/
def findManifests (files : Files.Store) (directory : Files.Path) :
    Except Error (List Files.Path) := do
  let visits ← (walk files directory).mapM fun visit =>
    visit.mapError fun path? => .manifest (path?.getD directory) .unreadable
  return visits.filterMap Visit.manifest?

abbrev Search := EStateM Error Registry

def addManifest (files : Files.Store) (path : Files.Path) : Search Unit := do
  match Manifest.ofFile files path with
  | .error e => throw e
  | .ok manifest => modify (·.add manifest.plugin)

/-- Adds a plugin to a registry for each manifest below each of the directories, up to the first
that cannot be searched or read. -/
def discover (files : Files.Store) (directories : List Files.Path) : Search Unit :=
  directories.forM fun directory => do
    match findManifests files directory with
    | .error e => throw e
    | .ok paths => paths.forM (addManifest files)

end DocBridge.Discovery

import DocBridge.Cli.Run

/-!
# The command

Gathers the files that the arguments and the settings mention into a store, runs the command on it,
and writes what it prints and the output file that it saves.
-/

namespace DocBridge.Disk

/-- The names that lead from the root to a path. -/
def namesOf (working : List String) (path : Files.Path) : List String :=
  let start := if Files.Path.isAbsolute path then [] else working
  (start ++ Files.Path.steps path).foldl (fun names step =>
    if Files.Path.isStill step then names
    else if step = ".." then names.dropLast
    else names ++ [step]) []

/-- Adds a directory that is not in the store yet. -/
def addDirectory (store : Files.Store) (names : List String) : Files.Store :=
  match store.list ("/" ++ String.intercalate "/" names) with
  | .ok _ => store
  | .error _ => store.put names (.directory [])

/-- Adds what is at a path on the disk: a file, or a directory and, if asked for, all below it. -/
partial def gather (deep : Bool) (store : Files.Store) (path : Files.Path) : IO Files.Store := do
  try
    let names := namesOf store.working path
    let found ← IO.FS.realPath path
    if ← found.isDir then
      let store := addDirectory store names
      if deep then
        (← found.readDir).foldlM (fun store entry =>
          gather true store (Files.Path.join path entry.fileName)) store
      else return store
    else return store.put names (.file (← IO.FS.readBinFile path))
  catch _ => return store

/-- The directory of a path. -/
def parent (path : Files.Path) : Files.Path :=
  match (Files.Path.steps path).dropLast with
  | [] => "."
  | steps => String.intercalate "/" steps ++ "/"

/-- The files that a command works with. -/
def storeFor (options : Cli.Options) : IO Files.Store := do
  let working := namesOf [] (← IO.currentDir).toString
  let configs := "podoc.toml" :: options.config?.toList
  let outputs := options.output?.toList
  let single := configs ++ configs.map (· ++ ".toml") ++ options.input?.toList ++ outputs ++
    outputs.map parent
  let store ← ("." :: single).foldlM (gather false) { root := [], working }
  match Cli.loadSettings options store with
  | .ok settings => settings.pluginDirectories.foldlM (gather true) store
  | .error _ => return store

partial def readAll (stream : IO.FS.Stream) (bytes : ByteArray) : IO ByteArray := do
  let chunk ← stream.read 65536
  if chunk.isEmpty then return bytes else readAll stream (bytes ++ chunk)

/-- Runs a command, writes the output file if it is not what the disk holds, and gives the exit
code. -/
def runCommand (arguments : List String) : IO UInt32 := do
  let options := (Cli.readArguments arguments).toOption.getD {}
  let store ← storeFor options
  let input ← if options.readsInput then readAll (← IO.getStdin) .empty else pure .empty
  let outcome := Cli.run arguments store input
  IO.print outcome.output
  outcome.report.forM IO.eprintln
  if let some path := options.output? then
    if let .ok text := outcome.files.read path then
      if (store.read path).toOption ≠ some text then IO.FS.writeFile path text
  return outcome.code.toUInt32

end DocBridge.Disk

def main (arguments : List String) : IO UInt32 := DocBridge.Disk.runCommand arguments

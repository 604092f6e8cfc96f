import DocBridge.Cli.Arguments
import DocBridge.Engine.Storage
import DocBridge.Settings

/-!
# Running a command

What a command does, as a function of its arguments, of the stored files and of the bytes on its
standard input. It gives what is printed, the lines of an error report, the exit code and the
files as they are afterwards.

The source language is named or follows from the extension of the input, the target language is
named or follows from the extension of the output. Without an input the document is read from
standard input, and without an output the result is printed, a tree as a diagram.
-/

namespace DocBridge.Cli

/-- Why a command fails. -/
inductive Failure where
  | configuration (fault : Config.Fault)
  | loadingPlugins (e : Error)
  | attachingPlugins (e : Error)
  | opening (path : Files.Path) (e : Error)
  | readingFile (path : Files.Path) (fault : Files.Fault)
  | readingInput (fault : Files.Fault)
  | inputWithoutSource
  | unknownTarget
  | routeWithoutSource
  | unknownSource (path : Files.Path)
  | route (e : Error)
  | conversion (e : Error)
  | writing (path : Files.Path) (e : Error)

/-- The report of a failure, by lines. -/
def Failure.lines : Failure → List String
  | configuration fault => ["Failed to load configuration: " ++ fault.message]
  | loadingPlugins e => ["Error loading plugins: " ++ e.message]
  | attachingPlugins e => ["Error attaching plugins: " ++ e.message]
  | opening path e =>
    ["Error opening '" ++ path ++ "': " ++ e.message, "Please specify --from explicitly"]
  | readingFile path fault => ["Error reading file '" ++ path ++ "': " ++ fault.message]
  | readingInput fault => ["Error reading stdin: " ++ fault.message]
  | inputWithoutSource => ["Error: reading from stdin requires --from"]
  | unknownTarget =>
    ["Error: Could not detect the target language", "Please specify --to explicitly"]
  | routeWithoutSource => ["Error: --show-path needs --from or an input file"]
  | unknownSource path => ["Error: Could not detect the language of '" ++ path ++ "'"]
  | route e => ["Error: " ++ e.message]
  | conversion e => ["Conversion error: " ++ e.message]
  | writing path e => ["Error writing file '" ++ path ++ "': " ++ e.message]

structure Outcome where
  code : Nat
  output : String
  report : List String
  files : Files.Store

/-- What a command works with. -/
structure Session where
  options : Options
  settings : Settings
  registry : Registry
  engine : Engine
  files : Files.Store
  /-- The bytes on standard input. -/
  input : ByteArray

/-- The settings of the file in the working directory and of the one that is named, with the named
plugin directories at the end. -/
def loadSettings (options : Options) (files : Files.Store) : Except Failure Settings := do
  let named := options.config?.toList.map (Config.Layer.file · true)
  let settings ←
    (Settings.load files (.file "podoc.toml" false :: named)).mapError .configuration
  return { settings with
    pluginDirectories := settings.pluginDirectories ++ options.pluginDirectories }

namespace Session

def start (options : Options) (files : Files.Store) (input : ByteArray) :
    Except Failure Session := do
  let settings ← loadSettings options files
  let registry ← (settings.registry files).mapError .loadingPlugins
  let engine ← (Engine.ofRegistry registry).mapError .attachingPlugins
  return { options, settings, registry, engine, files, input }

/-! ## Lists -/

/-- A text filled up with spaces to a width. -/
def column (width : Nat) (s : String) : String :=
  s ++ String.ofList (List.replicate (width - s.length) ' ')

def pluginList (session : Session) : String :=
  String.join ("Plugins (in attach order):\n\n" :: session.registry.plugins.map fun plugin =>
    "  " ++ column 24 plugin.name ++ " " ++ plugin.description ++ "\n")

def languageList (session : Session) : String :=
  let languages := session.engine.languages.map fun language =>
    "  " ++ column 16 language.name ++ " " ++ language.extension?.getD "-" ++ "\n"
  let converters := session.engine.pairs.map fun (source, target) =>
    "  " ++ source ++ " -> " ++ target ++ "\n"
  String.join ("Languages:\n\n" :: languages ++ "\nConverters:\n\n" :: converters)

/-! ## Documents -/

/-- The document and its language. -/
def readInput (session : Session) : Except Failure (String × Content) := do
  match session.options.input?, session.options.source? with
  | some path, none => (session.engine.openFile session.files path).mapError (.opening path)
  | some path, some source =>
    let text ← (session.files.read path).mapError (.readingFile path)
    return (source, .text text)
  | none, some source =>
    match String.fromUTF8? session.input with
    | some text => return (source, .text text)
    | none => .error (.readingInput .notText)
  | none, none => .error .inputWithoutSource

/-- Content of a language in another. In its own language it stays as it is, whatever it is. -/
def convert (session : Session) (source target : String) (content : Content) :
    Except Failure Content :=
  if source = target then .ok content
  else (session.engine.convertTo source target content).outcome.mapError .conversion

/-- What is printed of content. -/
def shown (session : Session) : Content → String
  | .text s => s
  | .tree root => root.diagram session.settings.diagramLimit ++ "\n"

def target (session : Session) : Except Failure String :=
  match session.options.target? with
  | some target => .ok target
  | none =>
    match session.options.output?.bind (session.engine.languageOfFile? ·) with
    | some target => .ok target
    | none => .error .unknownTarget

/-- The language whose route to the target is asked for. The input is not read. -/
def routeSource (session : Session) : Except Failure String :=
  match session.options.source?, session.options.input? with
  | some source, _ => .ok source
  | none, some path =>
    match session.engine.languageOfFile? path with
    | some source => .ok source
    | none => .error (.unknownSource path)
  | none, none => .error .routeWithoutSource

def showRoute (session : Session) (target : String) : Except Failure String := do
  let chain ← (session.engine.route (← session.routeSource) target).mapError .route
  return String.intercalate " -> " chain ++ "\n"

def inspect (session : Session) : Except Failure String := do
  let (source, content) ← session.readInput
  return session.shown (← session.convert source Plugin.treeLanguage content)

/-- What a conversion prints, and the files after it. -/
def convertInput (session : Session) (target : String) : Except Failure (String × Files.Store) := do
  let (source, content) ← session.readInput
  let converted ← session.convert source target content
  match session.options.output? with
  | none => return (session.shown converted, session.files)
  | some path =>
    let files ←
      (session.engine.saveFile session.files path target converted).mapError (.writing path)
    return ("", files)

def perform (session : Session) : Except Failure (String × Files.Store) := do
  let printing (text : String) : String × Files.Store := (text, session.files)
  if session.options.listsPlugins then return printing session.pluginList
  if session.options.listsLanguages then return printing session.languageList
  if session.options.inspecting then return printing (← session.inspect)
  let target ← session.target
  if session.options.showsRoute then return printing (← session.showRoute target)
  session.convertInput target

end Session

def usage : String :=
  "Usage: podoc [OPTIONS] [INPUT]\n       podoc inspect [OPTIONS] <INPUT>\n"

def run (arguments : List String) (files : Files.Store) (input : ByteArray) : Outcome :=
  match readArguments arguments with
  | .error .version => ⟨0, "podoc 0.1.0\n", [], files⟩
  | .error .help => ⟨0, usage, [], files⟩
  | .error .misuse => ⟨2, "", [usage], files⟩
  | .ok options =>
    match (Session.start options files input).bind Session.perform with
    | .ok (text, files) => ⟨0, text, [], files⟩
    | .error failure => ⟨1, "", failure.lines, files⟩

end DocBridge.Cli

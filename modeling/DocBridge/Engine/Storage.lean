import DocBridge.Engine.Conversion
import DocBridge.Text.Blank

/-!
# Files of an engine

A file is opened in the language that its extension is bound to, and saved in a language that is
named.
-/

namespace DocBridge.Engine

/-- The content of a file and its language. -/
def openFile (engine : Engine) (files : Files.Store) (path : Files.Path) :
    Except Error (String × Content) := do
  match engine.languageOfFile? path with
  | none => .error (.invalidArgument (.unboundExtension path))
  | some name =>
    match (← engine.language name).open? with
    | none => .error (.unsupported ("language '" ++ name ++ "' cannot open files"))
    | some read => return (name, ← read files path)

/-- The store after content in a language has been saved. -/
def saveFile (engine : Engine) (files : Files.Store) (path : Files.Path) (language : String)
    (content : Content) : Except Error Files.Store := do
  match (← engine.language language).save? with
  | none => .error (.unsupported ("language '" ++ language ++ "' cannot save files"))
  | some write => write files path content

/-- Opens a file, converts it, and saves what came of it if there is a path to save it at. -/
def convertFile (engine : Engine) (files : Files.Store) (input : Files.Path) (target : String)
    (output? : Option Files.Path) : Conversion × Files.Store :=
  match engine.openFile files input with
  | .error e => (.failed e, files)
  | .ok (source, content) =>
    let conversion := engine.convertTo source target content
    match conversion.outcome, output? with
    | .ok content, some output =>
      match engine.saveFile files output target content with
      | .ok files => (conversion, files)
      | .error e => (⟨conversion.ran, .error e⟩, files)
    | _, _ => (conversion, files)

/-- Whether a name ends as files of a language do. Without an extension, no name does. -/
def endsLike (language : Language) (name : String) : Bool :=
  match language.extension? with
  | none => false
  | some extension => extension.toList.isSuffixOf name.toList

/-- The files directly in a directory, or of them those whose names end in the extension of a
language. -/
def filesIn (engine : Engine) (files : Files.Store) (directory : Files.Path)
    (language? : Option String) : Except Error (List Files.Path) := do
  if Text.allBlank directory then .error (.invalidArgument .blankDirectory)
  let keeps : String → Bool ← match language? with
    | none => pure fun _ => true
    | some name => pure (endsLike (← engine.language name))
  let entries ← (files.list directory).mapError .io
  return entries.filterMap fun (name, _) =>
    let path := Files.Path.join directory name
    if files.isFile path && keeps name then some path else none

end DocBridge.Engine

import DocBridge.Config.Layer
import DocBridge.Plugin.Basic
import DocBridge.Text.Blank

/-!
# Manifests

A manifest declares a plugin without code: languages, and pairs of languages between which text is
passed through as it is. It is attached as a whole or not at all, so everything that could fail is
checked before the first registration.
-/

namespace DocBridge

structure DeclaredLanguage where
  name : String
  extension? : Option String
  /-- Whether its files are opened and saved as text. -/
  textFiles : Bool
deriving DecidableEq, Repr

structure Manifest where
  /-- Where the manifest comes from. -/
  origin : String
  name : String
  description : String
  languages : List DeclaredLanguage
  passThrough : List (String × String)
deriving DecidableEq, Repr

namespace Manifest

open Config.Value (boolean? listOf? nullable? optional? required? text?)

/-! ## Reading -/

def readHeader? (v : Config.Value) : Option (String × String) := do
  let [name, description] ← v.fields? ["name", "description"] | none
  return (← required? text? name, ← optional? text? "" description)

def readLanguage? (v : Config.Value) : Option DeclaredLanguage := do
  let [name, extension, textFiles] ← v.fields? ["name", "file_ext", "text_io"] | none
  return {
    name := ← required? text? name
    extension? := ← optional? (nullable? text?) none extension
    textFiles := ← optional? boolean? false textFiles }

def readPair? (v : Config.Value) : Option (String × String) := do
  let [source, target] ← v.fields? ["source", "target"] | none
  return (← required? text? source, ← required? text? target)

def ofValue? (origin : String) (v : Config.Value) : Option Manifest := do
  let [header, languages, passThrough] ← v.fields? ["plugin", "languages", "passthrough"] | none
  let (name, description) ← required? readHeader? header
  return {
    origin, name, description
    languages := ← optional? (listOf? readLanguage?) [] languages
    passThrough := ← optional? (listOf? readPair?) [] passThrough }

/-- The manifest that a text of TOML holds. Neither the plugin nor a language may have a blank
name. -/
def ofToml (origin text : String) : Except Error Manifest :=
  let read? := (Config.ofToml? text).bind fun entries =>
    ofValue? origin (Config.Value.merge entries (.table []))
  match read? with
  | none => .error (.manifest origin .unreadable)
  | some manifest =>
    if Text.allBlank manifest.name then .error (.manifest origin .blankPluginName)
    else
      match manifest.languages.find? fun language => Text.allBlank language.name with
      | some language =>
        .error (.manifest origin (.blankLanguageName manifest.name language.extension?))
      | none => .ok manifest

def ofFile (files : Files.Store) (path : Files.Path) : Except Error Manifest :=
  match Config.fileText? files path with
  | none => .error (.manifest path .unreadable)
  | some text => ofToml path text

/-! ## Attaching -/

/-- The first declared language whose name is registered already or declared before. -/
def firstTaken? (engine : Engine) : (declared : List String) → List DeclaredLanguage → Option String
  | _, [] => none
  | declared, language :: rest =>
    if language.name ∈ declared || engine.hasLanguage language.name then some language.name
    else firstTaken? engine (declared ++ [language.name]) rest

/-- The first end of a pair that is neither registered nor declared. -/
def firstUnknown? (engine : Engine) (manifest : Manifest) : Option String :=
  (manifest.passThrough.flatMap fun (source, target) => [source, target]).find? fun name =>
    !engine.hasLanguage name && !manifest.languages.any (·.name = name)

def check (manifest : Manifest) (engine : Engine) : Except Error Unit :=
  match firstTaken? engine [] manifest.languages with
  | some name => .error (.duplicateLanguage name)
  | none =>
    match firstUnknown? engine manifest with
    | some name => .error (.unknownLanguage name)
    | none => .ok ()

def passing : Converter where
  label := "pass through"
  run := fun content => return .text (← content.intoText)

def DeclaredLanguage.language (declared : DeclaredLanguage) : Language :=
  let language : Language := { name := declared.name, extension? := declared.extension? }
  if declared.textFiles then language.withTextFiles else language

def register (manifest : Manifest) : Registration Unit := do
  manifest.languages.forM fun declared =>
    Engine.addLanguage (DeclaredLanguage.language declared)
  manifest.passThrough.forM fun (source, target) => Engine.addConverter source target passing

def attach (manifest : Manifest) : Registration Unit := do
  match manifest.check (← get) with
  | .error e => throw e
  | .ok () => manifest.register

def plugin (manifest : Manifest) : Plugin where
  name := manifest.name
  description := manifest.description
  attach := manifest.attach

end Manifest

end DocBridge

import DocBridge.Engine.Language
import DocBridge.Entries

/-!
# The engine

An engine knows languages, pairs of languages, and converters from one language to another. Routes
are looked for among the pairs, which stand in the order in which they were registered first, and a
converter is looked for by its pair. A language is registered once. Registering a converter for a
pair again replaces the converter, and the pair stays in its place.

A registration is a program on an engine that can stop at an error. What it has registered until
then stays registered.
-/

namespace DocBridge

/-- A converter has a label, by which a conversion tells that it was run. -/
structure Converter where
  label : String
  run : Content → Except Error Content

structure Engine where
  languages : List Language := []
  /-- The source and target of each converter. -/
  pairs : List (String × String) := []
  converters : Entries (String × String) Converter := []

abbrev Registration := EStateM Error Engine

namespace Engine

def empty : Engine := {}

def languageNames (engine : Engine) : List String := engine.languages.map (·.name)

def hasLanguage (engine : Engine) (name : String) : Bool :=
  engine.languages.any (·.name = name)

def language (engine : Engine) (name : String) : Except Error Language :=
  match engine.languages.find? (·.name = name) with
  | some language => .ok language
  | none => .error (.unknownLanguage name)

def converter? (engine : Engine) (pair : String × String) : Option Converter :=
  engine.converters.find? pair

/-- The first language with an extension, which is compared with its point and its case. -/
def languageOfExtension? (engine : Engine) (extension : String) : Option String :=
  (engine.languages.find? (·.extension? = some extension)).map (·.name)

def languageOfFile? (engine : Engine) (path : Files.Path) : Option String :=
  (Files.Path.extension? path).bind fun extension =>
    engine.languageOfExtension? ("." ++ extension)

/-- The pairs with one at the end that is not among them yet. -/
def addPair (pair : String × String) (pairs : List (String × String)) : List (String × String) :=
  if pairs.contains pair then pairs else pairs ++ [pair]

def addLanguage (language : Language) : Registration Unit := fun engine =>
  if engine.hasLanguage language.name then
    .error (.duplicateLanguage language.name) engine
  else .ok () { engine with languages := engine.languages ++ [language] }

def addConverter (source target : String) (converter : Converter) : Registration Unit :=
  fun engine =>
    match engine.language source, engine.language target with
    | .error e, _ => .error e engine
    | _, .error e => .error e engine
    | .ok _, .ok _ =>
      .ok () { engine with
        pairs := addPair (source, target) engine.pairs
        converters := engine.converters.put (source, target) converter }

end Engine

end DocBridge

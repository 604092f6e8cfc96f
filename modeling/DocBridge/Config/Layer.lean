import DocBridge.Config.Key
import DocBridge.Entries
import DocBridge.Files.Store
import DocBridge.Toml.Reader

/-!
# Layers

A configuration is put together from layers over a base. Files come first, each over those before
it, then single values, wherever they are among the layers. Of the values for one key only the last
counts.
-/

namespace DocBridge.Config

inductive Layer where
  /-- A file of TOML. If it is not required, it may be missing or unreadable. -/
  | file (path : Files.Path) (required : Bool)
  | value (key : String) (v : Value)

/-- Why a configuration cannot be put together. -/
inductive Fault where
  | unreadable (path : Files.Path)
  | notToml (path : Files.Path)
  | badKey (key : String)
  | badValue
deriving DecidableEq, Repr

def Fault.message : Fault → String
  | unreadable path => "configuration file '" ++ path ++ "' cannot be read"
  | notToml path => "configuration file '" ++ path ++ "' is not valid TOML"
  | badKey key => "invalid key '" ++ key ++ "'"
  | badValue => "a value is missing or of the wrong kind"

/-- The text of a file, or of the one whose name goes on with `.toml` if there is no such file. -/
def fileText? (files : Files.Store) (path : Files.Path) : Option String :=
  let found? :=
    if files.isFile path then some path
    else (Files.Path.extended? path ".toml").filter files.isFile
  found?.bind fun found => (files.read found).toOption

/-- The entries that a text of TOML sets. -/
def ofToml? (text : String) : Option (Dictionary Value) :=
  (Toml.read? text).map Value.ofTomlEntries

def applyFile (files : Files.Store) (root : Value) : Layer → Except Fault Value
  | .value _ _ => .ok root
  | .file path required =>
    match fileText? files path with
    | none => if required then .error (.unreadable path) else .ok root
    | some text =>
      match ofToml? text with
      | none => .error (.notToml path)
      | some entries => .ok (root.merge entries)

def putValue (values : Entries Key Value) : Layer → Except Fault (Entries Key Value)
  | .file _ _ => .ok values
  | .value key v =>
    match Key.ofText? key with
    | none => .error (.badKey key)
    | some key => .ok (values.put key v)

/-- The configuration of layers over a base. -/
def assemble (files : Files.Store) (base : Value) (layers : List Layer) :
    Except Fault Value := do
  let values ← layers.foldlM putValue []
  let root ← layers.foldlM (applyFile files) base
  return values.foldl (fun root (key, v) => root.setAt key v) root

end DocBridge.Config

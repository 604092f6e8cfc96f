import DocBridge.Config.Layer
import DocBridge.Plugin.Builtin
import DocBridge.Plugin.Discovery
import DocBridge.Tree.Diagram

/-!
# Settings

What a configuration can set, its default values, and the plugins it asks for. The default values
are the base over which files and single values are laid.
-/

namespace DocBridge

structure Settings where
  pluginDirectories : List Files.Path := []
  /-- The name of the plugin that is attached last; empty to keep all in their order. -/
  fallback : String := Plugin.pandocName
  diagramLimit : Nat := Diagram.defaultLimit
  bullet : Char := Markdown.defaultBullet
  pandocVersion : Pandoc.Version := Pandoc.defaultVersion

namespace Settings

open Config.Value (character? listOf? natural? required? text?)

def toValue (settings : Settings) : Config.Value :=
  .table [
    ("markdown", .table [("bullet_char", .text settings.bullet.toString)]),
    ("pandoc", .table [
      ("api_version", .list (settings.pandocVersion.map fun (n : Nat) => .integer n))]),
    ("plugins", .table [
      ("dirs", .list (settings.pluginDirectories.map .text)),
      ("fallback", .text settings.fallback)]),
    ("printer", .table [("max_len", .integer settings.diagramLimit)])]

/-- A part of a version has 32 bits. -/
def versionPart? (v : Config.Value) : Option Nat := v.natural?.filter (· < UInt32.size)

def ofValue? (v : Config.Value) : Option Settings := do
  let [plugins, printer, markdown, pandoc] ←
    v.fields? ["plugins", "printer", "markdown", "pandoc"] | none
  let [directories, fallback] ← (← plugins).fields? ["dirs", "fallback"] | none
  let [limit] ← (← printer).fields? ["max_len"] | none
  let [bullet] ← (← markdown).fields? ["bullet_char"] | none
  let [version] ← (← pandoc).fields? ["api_version"] | none
  return {
    pluginDirectories := ← required? (listOf? text?) directories
    fallback := ← required? text? fallback
    diagramLimit := ← required? natural? limit
    bullet := ← required? character? bullet
    pandocVersion := ← required? (listOf? versionPart?) version }

/-- The settings of layers over the default values. -/
def load (files : Files.Store) (layers : List Config.Layer) : Except Config.Fault Settings := do
  match ofValue? (← Config.assemble files (toValue {}) layers) with
  | some settings => return settings
  | none => .error .badValue

/-- The built-in plugins, in the order in which they are registered. -/
def builtinPlugins (settings : Settings) : List Plugin :=
  [Plugin.tree, Plugin.pandoc settings.pandocVersion, Plugin.markdown settings.bullet]

/-- The built-in plugins and those found in the plugin directories, with the fallback at the end. -/
def registry (settings : Settings) (files : Files.Store) : Except Error Registry :=
  match Discovery.discover files settings.pluginDirectories ⟨settings.builtinPlugins⟩ with
  | .error e _ => .error e
  | .ok () registry =>
    if settings.fallback = "" then .ok registry else registry.moveToEnd settings.fallback

end Settings

end DocBridge

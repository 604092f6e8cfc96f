import DocBridge.Engine.Basic
import DocBridge.Text.LowerCase

/-!
# Plugins

A plugin registers languages and converters in an engine. A registry is an ordered list of
plugins; the order decides which converters a conversion prefers, so a plugin that is moved to the
end becomes the last resort.
-/

namespace DocBridge

structure Plugin where
  name : String
  description : String := ""
  attach : Registration Unit

structure Registry where
  plugins : List Plugin := []

namespace Registry

def empty : Registry := {}

def names (registry : Registry) : List String := registry.plugins.map (·.name)

def add (plugin : Plugin) (registry : Registry) : Registry := ⟨registry.plugins ++ [plugin]⟩

/-- The first plugin with a text in its name. Case does not matter. -/
def find (registry : Registry) (name : String) : Except Error Plugin :=
  let wanted := (Text.lower name).toList
  match registry.plugins.find? fun plugin =>
    Text.occursIn wanted (Text.lower plugin.name).toList with
  | some plugin => .ok plugin
  | none => .error (.pluginNotFound name)

/-- A change of a registry that can stop at an error. What it has done until then stays done. -/
abbrev Change := EStateM Error Registry

/-- Moves the first plugin of exactly this name to the end. -/
def moving (name : String) : Change Unit := do
  let plugins := (← get).plugins
  match plugins.findIdx? (·.name = name) with
  | none => throw (.pluginNotFound name)
  | some index => set (Registry.mk (plugins.eraseIdx index ++ plugins[index]?.toList))

/-- The registry with the first plugin of exactly this name at the end. -/
def moveToEnd (registry : Registry) (name : String) : Except Error Registry :=
  match (moving name).run registry with
  | .ok () moved => .ok moved
  | .error e _ => .error e

/-- Attaches the plugins in their order, up to the first that fails. -/
def attachAll (registry : Registry) : Registration Unit :=
  registry.plugins.forM (·.attach)

end Registry

/-- A new engine with all plugins of a registry attached. -/
def Engine.ofRegistry (registry : Registry) : Except Error Engine :=
  match registry.attachAll .empty with
  | .ok _ engine => .ok engine
  | .error e _ => .error e

end DocBridge

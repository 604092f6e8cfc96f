import DocBridge.Json.Reader
import DocBridge.Markdown.Reader
import DocBridge.Markdown.Writer
import DocBridge.Pandoc.Format
import DocBridge.Plugin.Basic
import DocBridge.Tree.Value

/-!
# Built-in plugins

The tree itself is a language, kept in files as JSON. The Markdown and the Pandoc plugin bring the
language of the tree along if no plugin has registered it yet, and convert to it and from it.
-/

namespace DocBridge.Plugin

def treeLanguage : String := "ast"

def openTree : OpenFile := fun files path => do
  match Json.read? Json.documentDepth (← Language.readText files path) with
  | some v => return .tree (← Node.ofValue v)
  | none => .error .parse

def saveTree : SaveFile := fun files path content => do
  Language.writeText files path ((← content.intoTree).toValue.pretty ++ "\n")

/-- Registers the language of the tree unless there is one of its name. -/
def ensureTreeLanguage : Registration Unit := do
  if !(← get).hasLanguage treeLanguage then
    Engine.addLanguage {
      name := treeLanguage, extension? := some ".ast", open? := some openTree,
      save? := some saveTree }

def tree : Plugin where
  name := "AstPlugin"
  description := "Intermediate document tree"
  attach := ensureTreeLanguage

def textToTree (label : String) (read : String → Except Error Node) : Converter where
  label := label
  run := fun content => return .tree (← read (← content.intoText))

def treeToText (label : String) (write : Node → Except Error String) : Converter where
  label := label
  run := fun content => return .text (← write (← content.intoTree))

def markdownLanguage : String := "markdown"

/-- Markdown, with a character that starts the items of written lists. -/
def markdown (bullet : Char) : Plugin where
  name := "MarkdownPlugin"
  description := "CommonMark Markdown format"
  attach := do
    ensureTreeLanguage
    Engine.addLanguage
      (Language.withTextFiles { name := markdownLanguage, extension? := some ".md" })
    Engine.addConverter markdownLanguage treeLanguage
      (textToTree "Markdown reader" fun text => .ok (Markdown.read text))
    Engine.addConverter treeLanguage markdownLanguage
      (treeToText "Markdown writer" (Markdown.tryWrite bullet))

def pandocLanguage : String := "pandoc"

def pandocName : String := "PandocPlugin"

/-- Pandoc's JSON, with a version that written documents give. -/
def pandoc (version : DocBridge.Pandoc.Version) : Plugin where
  name := pandocName
  description := "Pandoc JSON AST"
  attach := do
    ensureTreeLanguage
    Engine.addLanguage
      (Language.withTextFiles { name := pandocLanguage, extension? := some ".json" })
    Engine.addConverter treeLanguage pandocLanguage
      (treeToText "Pandoc writer" (DocBridge.Pandoc.write version))
    Engine.addConverter pandocLanguage treeLanguage
      (textToTree "Pandoc reader" DocBridge.Pandoc.read)

end DocBridge.Plugin

namespace DocBridge

/-- The built-in plugins, with Pandoc as the last resort. -/
def Registry.builtin : Registry where
  plugins := [Plugin.tree, Plugin.markdown Markdown.defaultBullet,
    Plugin.pandoc Pandoc.defaultVersion]

end DocBridge

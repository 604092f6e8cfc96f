import DocBridge.Files.Fault
import DocBridge.Json.Printer
import DocBridge.Text.Quoted

/-!
# Errors

Every way in which an operation of the library can fail, by its cause, and the text in which each is
reported. The text of a value inside a report is its compact JSON.
-/

namespace DocBridge

/-- The place of a node kind that is not known there. -/
inductive Role where
  | block
  | inline
  | pandocBlock
  | pandocInline
deriving DecidableEq, Repr

def Role.name : Role → String
  | block => "block"
  | inline => "inline"
  | pandocBlock => "Pandoc block"
  | pandocInline => "Pandoc inline"

/-- Why a tree cannot be built from, or given as, another form. -/
inductive TreeFault where
  | blankName
  | notObject (found : Json.Value)
  | unnamed
  | childrenNotList (parent : String) (found : Json.Value)
  | badChild (parent : String) (found : Json.Value)
  | noSingleRoot (root : String)
  | textAsBlock (text : String)
  | unsupported (kind : String) (role : Role)
  | notListItem (list : String)
  | noBlocks
  | untagged (found : Json.Value)
  | notList (tag : String) (found : Json.Value)
  | notString (tag : String) (found : Json.Value)
  | fieldCount (tag : String) (count : Nat) (found : Json.Value)
  | badLevel (found : Json.Value)

def TreeFault.message : TreeFault → String
  | blankName => "node names cannot be empty"
  | notObject found => "expected a node object, found " ++ found.compact
  | unnamed => "node without a name"
  | childrenNotList parent found =>
    "children of '" ++ parent ++ "' must be a list, found " ++ found.compact
  | badChild parent found =>
    "children of '" ++ parent ++ "' must be strings or nodes, found " ++ found.compact
  | noSingleRoot root => "rewriting '" ++ root ++ "' did not produce a single root node"
  | textAsBlock text => "text '" ++ text ++ "' found where a block was expected"
  | unsupported kind role => "'" ++ kind ++ "' is not a supported " ++ role.name
  | notListItem list => "'" ++ list ++ "' children must be ListItem nodes"
  | noBlocks => "missing 'blocks' list"
  | untagged found => "untagged element " ++ found.compact
  | notList tag found => "expected a list for " ++ tag ++ ", found " ++ found.compact
  | notString tag found => "expected a string for " ++ tag ++ ", found " ++ found.compact
  | fieldCount tag count found =>
    "'" ++ tag ++ "' expects " ++ toString count ++ " fields, found " ++ found.compact
  | badLevel found => "invalid header level " ++ found.compact

/-- Why an operation of the engine cannot be carried out on its arguments. -/
inductive ArgumentFault where
  | blankDirectory
  | shortChain (length : Nat)
  | unboundExtension (path : String)
deriving DecidableEq, Repr

def ArgumentFault.message : ArgumentFault → String
  | blankDirectory => "the directory path is empty"
  | shortChain length =>
    "a conversion chain needs at least two languages, got " ++ toString length
  | unboundExtension path => "no language is bound to the extension of '" ++ path ++ "'"

/-- Why a plugin manifest is refused. -/
inductive ManifestFault where
  /-- The file or directory cannot be read, or the text is not a manifest. -/
  | unreadable
  | blankPluginName
  | blankLanguageName (plugin : String) (extension : Option String)
deriving DecidableEq, Repr

def ManifestFault.message : ManifestFault → String
  | unreadable => "the manifest cannot be read"
  | blankPluginName => "the plugin name is empty"
  | blankLanguageName plugin extension =>
    "a language of '" ++ plugin ++ "' has an empty name (file_ext " ++
      Text.quoteOptional extension ++ ")"

/-- The two forms of content. -/
inductive ContentKind where
  | text
  | tree
deriving DecidableEq, Repr

def ContentKind.name : ContentKind → String
  | text => "text"
  | tree => "tree"

inductive Error where
  | unknownLanguage (name : String)
  | duplicateLanguage (name : String)
  | noPath (source target : String)
  | invalidArgument (fault : ArgumentFault)
  | pluginNotFound (name : String)
  | malformedTree (fault : TreeFault)
  | unexpectedContent (expected found : ContentKind)
  | unsupported (operation : String)
  /-- A text is not in the format it should be in. -/
  | parse
  | io (fault : Files.Fault)
  | manifest (path : String) (fault : ManifestFault)

namespace Error

def message : Error → String
  | unknownLanguage name => "Language '" ++ name ++ "' is not registered"
  | duplicateLanguage name => "Language '" ++ name ++ "' is already registered"
  | noPath source target => "No conversion path from '" ++ source ++ "' to '" ++ target ++ "'"
  | invalidArgument fault => "Invalid argument: " ++ fault.message
  | pluginNotFound name => "The plugin '" ++ name ++ "' cannot be found"
  | malformedTree fault => "Malformed tree: " ++ fault.message
  | unexpectedContent expected found =>
    "Expected " ++ expected.name ++ " content, found " ++ found.name
  | unsupported operation => "Operation not supported: " ++ operation
  | parse => "Parse error: the text is not valid JSON"
  | io fault => "I/O error: " ++ fault.message
  | manifest path fault => "Invalid plugin manifest '" ++ path ++ "': " ++ fault.message

end Error

end DocBridge

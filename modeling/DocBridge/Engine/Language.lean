import DocBridge.Engine.Content
import DocBridge.Files.Store
import DocBridge.Text.Quoted

/-!
# Languages

A language has a name and may have a file extension, written with its point, a way to open files and
a way to save them.
-/

namespace DocBridge

abbrev OpenFile := Files.Store → Files.Path → Except Error Content

/-- Gives back the store with the file written. -/
abbrev SaveFile := Files.Store → Files.Path → Content → Except Error Files.Store

structure Language where
  name : String
  extension? : Option String := none
  open? : Option OpenFile := none
  save? : Option SaveFile := none

namespace Language

/-- A file read as text. -/
def readText (files : Files.Store) (path : Files.Path) : Except Error String :=
  (files.read path).mapError .io

def writeText (files : Files.Store) (path : Files.Path) (text : String) :
    Except Error Files.Store :=
  (files.write path text).mapError .io

/-- A language whose files hold its content as it is. -/
def withTextFiles (language : Language) : Language :=
  { language with
    open? := some fun files path => return .text (← readText files path)
    save? := some fun files path content => do writeText files path (← content.intoText) }

/-- The language in one line. -/
def describe (language : Language) : String :=
  "Language \x7b name: " ++ Text.quote language.name ++
    ", file_ext: " ++ Text.quoteOptional language.extension? ++
    ", open: " ++ toString language.open?.isSome ++
    ", save: " ++ toString language.save?.isSome ++ " \x7d"

end Language

end DocBridge

/-!
# Faults of the file system
-/

namespace DocBridge.Files

/-- Why a file or directory cannot be used. -/
inductive Fault where
  | notFound
  | isDirectory
  | notDirectory
  | nameTooLong
  /-- A null character in a path. -/
  | nullInPath
  /-- The bytes of a file are no UTF-8 text. -/
  | notText
deriving DecidableEq, Repr

def Fault.message : Fault → String
  | notFound => "No such file or directory (os error 2)"
  | isDirectory => "Is a directory (os error 21)"
  | notDirectory => "Not a directory (os error 20)"
  | nameTooLong => "File name too long (os error 36)"
  | nullInPath => "file name contained an unexpected NUL byte"
  | notText => "stream did not contain valid UTF-8"

end DocBridge.Files

/-!
# Files

What can be found under a path. Only the contents of files matter, and why there are none, in the words that the
system has for it.
-/

namespace SqlShell

/-- What stands under a path. -/
inductive FileEntry where
  /-- The path leads nowhere. -/
  | missing (reason : String)
  /-- Something stands there that has no content. -/
  | unreadable (reason : String)
  | file (content : String)
deriving DecidableEq, Inhabited

namespace FileEntry

/-- Nothing stands under the path. -/
def notFound : FileEntry :=
  .missing "No such file or directory (os error 2)"

/-- The path goes through a file. -/
def notDirectory : FileEntry :=
  .missing "Not a directory (os error 20)"

/-- The path, or a step of it, is longer than the system allows. -/
def nameTooLong : FileEntry :=
  .missing "File name too long (os error 36)"

/-- A directory stands under the path. -/
def directory : FileEntry :=
  .unreadable "Is a directory (os error 21)"

/-- Something stands under the path. -/
def isPresent : FileEntry → Bool
  | .missing _ => false
  | _ => true

/-- The content of a file, or why there is none. -/
def content : FileEntry → Except String String
  | .file content => .ok content
  | .missing reason | .unreadable reason => .error reason

end FileEntry

end SqlShell

import SqlShell.Files.Entry
/-!
# File trees

A working directory held in memory, as a list of files. A path is followed step by step: every step but the last
one must lead to a directory, and so must the last one where a slash comes after it. A step back leads to the
directory around, and around the working directory nothing is known but that there are directories.
-/

namespace SqlShell

/-- Files by the steps that lead to them from the working directory. -/
structure FileTree where
  files : List (List String × String)
deriving DecidableEq, Inhabited

namespace FileTree

/-- The longest step of a path, in bytes. -/
def stepLimit : Nat := 255

/-- Paths must be shorter than this, in bytes. -/
def pathLimit : Nat := 4096

/-- The steps of a path. Slashes that come together, and a slash at the end, stand for empty steps. -/
def steps (path : String) : List String :=
  path.splitOn "/"

/-- A step that leads nowhere else. -/
def isIdle (step : String) : Bool :=
  step.isEmpty || step == "."

/-- The tree of files that are given by their paths. -/
def ofList (files : List (String × String)) : FileTree :=
  ⟨files.map fun (path, content) => ((steps path).filter (!isIdle ·), content)⟩

/-- What stands at a place in the tree. -/
def entryAt (tree : FileTree) (place : List String) : FileEntry :=
  match tree.files.lookup place with
  | some content => .file content
  | none => if place.isEmpty || tree.files.any (place.isPrefixOf ·.1) then .directory else .notFound

/-- Follows steps outside the working directory. -/
def followOutside : List String → FileEntry
  | [] => .directory
  | step :: rest =>
    if isIdle step || step == ".." then followOutside rest
    else if step.utf8ByteSize > stepLimit then .nameTooLong
    else .notFound

/-- Follows steps from a place in the tree. -/
def follow (tree : FileTree) (place : List String) : List String → FileEntry
  | [] => tree.entryAt place
  | step :: rest =>
    match tree.entryAt place with
    | .missing reason => .missing reason
    | .file _ => .notDirectory
    | .unreadable _ =>
      if isIdle step then tree.follow place rest
      else if step == ".." then if place.isEmpty then followOutside rest else tree.follow place.dropLast rest
      else if step.utf8ByteSize > stepLimit then .nameTooLong
      else tree.follow (place ++ [step]) rest

/-- What stands under a path that starts in the working directory. -/
def entry (tree : FileTree) (path : String) : FileEntry :=
  if path.isEmpty then .notFound
  else if path.utf8ByteSize ≥ pathLimit then .nameTooLong
  else tree.follow [] (steps path)

end FileTree

end SqlShell

/-!
# Settings documents

A document written in TOML: values under keys, in tables. Settings are texts and truth values; of other values only
the fact that they are there is kept.

A document is the list of what stands at each of its paths. A table may be mentioned several times, but it is defined
once: by a header, by keys with dots, or element by element.
-/

namespace SqlShell.Toml

/-- A value under a key. -/
inductive Value where
  | string (text : String)
  | boolean (value : Bool)
  /-- A number, a date or a time, an array, or a table between braces. -/
  | other
deriving DecidableEq, Inhabited

/-- How a table comes to be. -/
inductive Origin where
  /-- It has a header. -/
  | header
  /-- A table inside it has a header. -/
  | inner
  /-- A key with dots leads through it. -/
  | dots
  /-- Its elements have headers. Paths lead into the last element. -/
  | elements
deriving DecidableEq, Inhabited

/-- What stands at a path. -/
inductive Entry where
  | value (value : Value)
  | table (origin : Origin)
deriving DecidableEq, Inhabited

/-- A key, from the outermost table inwards. -/
abbrev Path := List String

/-- The entries of a document by their paths. -/
structure Document where
  entries : List (Path × Entry)
deriving DecidableEq, Inhabited

namespace Document

/-- The document without entries. -/
def empty : Document :=
  ⟨[]⟩

/-- The entry at a path. -/
def entry? (document : Document) (path : Path) : Option Entry :=
  document.entries.lookup path

/-- The document with an entry at a path, in place of the one that stands there. -/
def insert (document : Document) (path : Path) (entry : Entry) : Document :=
  ⟨document.entries.filter (·.1 != path) ++ [(path, entry)]⟩

/-- The document with all tables on a path inside a table; the missing ones come to be in the given way. No path leads
through a value, and keys with dots do not lead through a table that has a header. -/
def addTables? (origin : Origin) (document : Document) (table : Path) : Path → Option Document
  | [] => some document
  | key :: path =>
    match document.entry? (table ++ [key]) with
    | none => addTables? origin (document.insert (table ++ [key]) (.table origin)) (table ++ [key]) path
    | some (.table found) =>
      if origin = .dots ∧ found = .header then none else addTables? origin document (table ++ [key]) path
    | some (.value _) => none

/-- The document with one more value at a path inside a table. The path must be free, and keys with dots add values only
to tables that came to be by such keys. -/
def addValue? (document : Document) (table path : Path) (value : Value) : Option Document := do
  let document ← document.addTables? .dots table path.dropLast
  let isOpen := path.dropLast.isEmpty || document.entry? (table ++ path.dropLast) == some (.table .dots)
  if isOpen && (document.entry? (table ++ path)).isNone then
    some (document.insert (table ++ path) (.value value))
  else none

/-- The document with a header for a table. Only a table that is there for the sake of an inner one can still get it. -/
def addHeader? (document : Document) (path : Path) : Option Document := do
  let document ← document.addTables? .inner [] path.dropLast
  match document.entry? path with
  | none | some (.table .inner) => some (document.insert path (.table .header))
  | _ => none

/-- The document with one more element in an array of tables. The entries of the last element are complete then, so
they leave the document and their paths are free. -/
def addElement? (document : Document) (path : Path) : Option Document := do
  let document ← document.addTables? .inner [] path.dropLast
  match document.entry? path with
  | none => some (document.insert path (.table .elements))
  | some (.table .elements) => some ⟨document.entries.filter fun (found, _) => found == path || !path.isPrefixOf found⟩
  | _ => none

end Document

end SqlShell.Toml

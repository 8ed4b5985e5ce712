import SqlShell.Execution.Outcome
/-!
# JSON texts

Results and catalogs can be printed as JSON: one item or field a line, indented by two spaces for each level.
Characters are written as they are, apart from the quotes, backslashes and control characters that JSON wants
escaped.
-/

namespace SqlShell

/-- A JSON text without fractions. -/
inductive JsonValue where
  | null
  | boolean (value : Bool)
  | number (value : Int)
  | string (value : String)
  | array (items : List JsonValue)
  | object (fields : List (String × JsonValue))

namespace JsonValue

/-- The two lower-case hexadecimal digits of a number below 256. -/
def hexPair (n : Nat) : List Char :=
  [Nat.digitChar (n / 16), Nat.digitChar (n % 16)]

/-- A character inside quotes. -/
def escape (c : Char) : List Char :=
  match c with
  | '"' => ['\\', '"']
  | '\\' => ['\\', '\\']
  | '\n' => ['\\', 'n']
  | '\r' => ['\\', 'r']
  | '\t' => ['\\', 't']
  | '\x08' => ['\\', 'b']
  | '\x0c' => ['\\', 'f']
  | c => if c.toNat < 0x20 then ['\\', 'u', '0', '0'] ++ hexPair c.toNat else [c]

/-- A text in quotes. -/
def quoted (text : String) : String :=
  "\"" ++ String.ofList (text.toList.flatMap escape) ++ "\""

/-- Lines between brackets, with commas after all but the last one. -/
def bracketed (opening closing indent : String) (inner : List String) : String :=
  if inner.isEmpty then opening ++ closing
  else opening ++ "\n" ++ ",\n".intercalate (inner.map (indent ++ "  " ++ ·)) ++ "\n" ++ indent ++ closing

mutual

/-- The text of a value whose first line is already indented. -/
def pretty (indent : String) : JsonValue → String
  | .null => "null"
  | .boolean value => truthSpelling value
  | .number value => toString value
  | .string value => quoted value
  | .array items => bracketed "[" "]" indent (prettyItems (indent ++ "  ") items)
  | .object fields => bracketed "\x7b" "\x7d" indent (prettyFields (indent ++ "  ") fields)

/-- The texts of the items of an array. -/
def prettyItems (indent : String) : List JsonValue → List String
  | [] => []
  | item :: items => item.pretty indent :: prettyItems indent items

/-- The texts of the fields of an object. -/
def prettyFields (indent : String) : List (String × JsonValue) → List String
  | [] => []
  | (name, value) :: fields => (quoted name ++ ": " ++ value.pretty indent) :: prettyFields indent fields

end

/-- A cell of a table. -/
def ofCell : Cell → JsonValue
  | .int value => .number value.toInt
  | .text value => .string value
  | .boolean value => .boolean value
  | .null => .null

/-- The name of a type. -/
def ofType (type : ColumnType) : JsonValue :=
  .string type.name

/-- A result: its columns and its rows. -/
def ofResult (result : ResultTable) : JsonValue :=
  .object [
    ("columns", .array (result.headings.map fun h =>
      .object [("name", .string h.name), ("column_type", ofType h.type)])),
    ("rows", .array (result.rows.map fun row => .array (row.map ofCell)))]

/-- The shape of a table. -/
def ofShape (shape : TableShape) : JsonValue :=
  .object [
    ("columns", .array (shape.columns.map .string)),
    ("column_types", .array (shape.types.map ofType)),
    ("row_count", .number shape.rowCount)]

/-- The shapes of all tables of a catalog, by name. -/
def ofCatalog (catalog : Catalog) : JsonValue :=
  .object (catalog.shapes.map fun (name, shape) => (name, ofShape shape))

end JsonValue

end SqlShell

import SchemaDiagram.Schema.Basic

namespace SchemaDiagram

inductive JsonValue where
  | null
  | bool (b : Bool)
  | text (s : String)
  | array (items : List JsonValue)
  | object (members : List (String × JsonValue))

namespace JsonValue

def ofOption (s : Option String) : JsonValue :=
  match s with
  | some s => .text s
  | none => .null

def ofTexts (l : List String) : JsonValue := .array (l.map .text)

def codeUnit (n : Nat) : List Char :=
  let digits := Nat.toDigits 16 n
  List.replicate (4 - digits.length) '0' ++ digits

def escapeChar (c : Char) : List Char :=
  if c = '"' then ['\\', '"']
  else if c = '\\' then ['\\', '\\']
  else if c = '\x08' then ['\\', 'b']
  else if c = '\t' then ['\\', 't']
  else if c = '\n' then ['\\', 'n']
  else if c = '\x0c' then ['\\', 'f']
  else if c = '\r' then ['\\', 'r']
  else if c.toNat < 0x20 then '\\' :: 'u' :: codeUnit c.toNat
  else [c]

def string (s : String) : String :=
  String.ofList ('"' :: s.toList.flatMap escapeChar ++ ['"'])

def indentation (depth : Nat) : String := String.ofList (List.replicate (2 * depth) ' ')

def enclose (opening closing : String) (depth : Nat) (entries : List String) : String :=
  match entries with
  | [] => opening ++ closing
  | entries =>
      let inner := entries.map (indentation (depth + 1) ++ ·)
      opening ++ "\n" ++ ",\n".intercalate inner ++ "\n" ++ indentation depth ++ closing

mutual

def pretty (depth : Nat) : JsonValue → String
  | .null => "null"
  | .bool b => if b then "true" else "false"
  | .text s => string s
  | .array items => enclose "[" "]" depth (prettyItems (depth + 1) items)
  | .object members => enclose "\x7b" "\x7d" depth (prettyMembers (depth + 1) members)

def prettyItems (depth : Nat) : List JsonValue → List String
  | [] => []
  | j :: rest => pretty depth j :: prettyItems depth rest

def prettyMembers (depth : Nat) : List (String × JsonValue) → List String
  | [] => []
  | (k, j) :: rest => (string k ++ ": " ++ pretty depth j) :: prettyMembers depth rest

end

end JsonValue

def Column.toJson (c : Column) : JsonValue := .object [
  ("name", .text c.name), ("type", .ofOption c.type), ("scale", .ofOption c.scale),
  ("not_null", .bool c.notNull), ("auto_increment", .bool c.autoIncrement),
  ("default_value", .ofOption c.defaultText), ("primary", .bool c.primary),
  ("foreign", .bool c.foreign)]

def ForeignKey.toJson (k : ForeignKey) : JsonValue := .object [
  ("foreign_key_name", .ofOption k.column), ("source_table", .ofOption k.referencedTable),
  ("source_column", .ofOption k.referencedColumn)]

def PrimaryKey.toJson (k : PrimaryKey) : JsonValue := .object [("key_name", .ofTexts k.columns)]

def UniqueKey.toJson (k : UniqueKey) : JsonValue := .object [
  ("index_name", .text k.name), ("column_names", .ofTexts k.columns)]

def Table.toJson (t : Table) : JsonValue := .object [
  ("name", .text t.name), ("columns", .array (t.columns.map Column.toJson)),
  ("foreign_keys", .array (t.foreignKeys.map ForeignKey.toJson)),
  ("primary_keys", .array (t.primaryKeys.map PrimaryKey.toJson)),
  ("unique_constraints", .array (t.uniqueKeys.map UniqueKey.toJson))]

def exportText (tables : List Table) : String :=
  (JsonValue.array (tables.map Table.toJson)).pretty 0 ++ "\n"

end SchemaDiagram

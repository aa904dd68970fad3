import SchemaDiagram.Ddl.ColumnList
import SchemaDiagram.Schema.Basic

namespace SchemaDiagram.Ddl

open Text

def endsDefinition (s : List Char) : Bool := onlyBlanks ((after "," s).getD s)

def endsAnyhow (s : List Char) : Bool := s.all (· ≠ '\n')

def primaryKey? (line : List Char) : Option PrimaryKey := do
  let r ← after "PRIMARY KEY (" (skipBlanks line)
  let (list, r) ← quotedList r
  let r ← after ")" r
  let names := columnNames list
  guard (endsDefinition r && names ≠ [])
  pure { columns := names.map String.ofList }

def uniqueKey? (line : List Char) : Option UniqueKey := do
  let r ← after "UNIQUE KEY " (skipBlanks line)
  let (name, r) ← keyName r
  let r ← after " (" r
  let (list, r) ← quotedList r
  let r ← after ")" r
  guard (endsAnyhow r)
  pure { name := String.ofList name, columns := (columnNames list).map String.ofList }

def foreignKey? (line : List Char) : Option ForeignKey := do
  let r ← after "CONSTRAINT " (skipBlanks line)
  let (_, r) ← keyName r
  let r ← after " FOREIGN KEY (" r
  let (column, r) ← keyName r
  let r ← after ") REFERENCES " r
  let (table, r) ← keyName r
  let r ← after " (" r
  let (referenced, r) ← keyName r
  let r ← after ")" r
  guard (endsAnyhow r)
  pure {
    column := some (String.ofList column)
    referencedTable := some (String.ofList table)
    referencedColumn := some (String.ofList referenced) }

end SchemaDiagram.Ddl

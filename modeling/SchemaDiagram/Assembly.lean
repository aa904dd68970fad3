import SchemaDiagram.Ddl.Dialect

namespace SchemaDiagram

open Ddl

namespace Table

def withForeignKeys (d : Dialect) (lines : List String) (t : Table) : Table :=
  let keyed := { t with foreignKeys := lines.filterMap d.foreignKey? }
  { keyed with
    columns := t.columns.map fun c => c.markForeign (keyed.foreignKeyColumns.contains c.name) }

def withPrimaryKeys (d : Dialect) (lines : List String) (t : Table) : Table :=
  let keyed := { t with primaryKeys := lines.filterMap d.primaryKey? }
  { keyed with
    columns := t.columns.map fun c => c.markPrimary (keyed.primaryKeyColumns.contains c.name) }

def ofLines? (d : Dialect) : List String → Option Table
  | [] => none
  | first :: rest =>
      (d.header? first).map fun name =>
        let lines := first :: rest
        let declared : Table := { name, columns := lines.filterMap d.column? }
        let keyed := (declared.withForeignKeys d lines).withPrimaryKeys d lines
        { keyed with uniqueKeys := lines.filterMap d.uniqueKey? }

end Table

end SchemaDiagram

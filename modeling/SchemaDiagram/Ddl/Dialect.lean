import SchemaDiagram.Ddl.ColumnLine
import SchemaDiagram.Ddl.HeaderLine

namespace SchemaDiagram.Ddl

structure Dialect where
  header? : String → Option String
  column? : String → Option Column
  primaryKey? : String → Option PrimaryKey
  foreignKey? : String → Option ForeignKey
  uniqueKey? : String → Option UniqueKey

def Dialect.table? (d : Dialect) (line : String) : Option Table :=
  (d.header? line).map fun name => { name }

def mysql : Dialect where
  header? line := (headerName line.toList).map String.ofList
  column? line := Ddl.column? line.toList
  primaryKey? line := Ddl.primaryKey? line.toList
  foreignKey? line := Ddl.foreignKey? line.toList
  uniqueKey? line := Ddl.uniqueKey? line.toList

end SchemaDiagram.Ddl

import SchemaDiagram.Diagram.Relationship

namespace SchemaDiagram

namespace Column

def typeText (c : Column) : String :=
  match c.type, c.scale with
  | some type, some scale => " " ++ type ++ "(" ++ scale ++ ")"
  | some type, none => " " ++ type
  | none, _ => ""

def fieldLine (c : Column) : String :=
  "\t\x7bfield\x7d <b>" ++ c.name ++ "</b>" ++ c.typeText
    ++ (if c.foreign then " <<FK>>" else "") ++ (if c.primary then " <<PK>>" else "")

end Column

namespace Table

def blockOpening (t : Table) : String := "class " ++ t.name ++ " << (T,#FFAAAA) >> \x7b"

def blockText (t : Table) : String :=
  t.blockOpening ++ "\n" ++ "\n".intercalate (t.columns.map Column.fieldLine) ++ "\n" ++ "\x7d\n"

end Table

structure Draft where
  text : String := ""
  leftOut : List Reference := []
  deriving DecidableEq, Repr

namespace Draft

def write (d : Draft) (text : String) : Draft := { d with text := d.text ++ text }

def leaveOut (d : Draft) (r : Reference) : Draft := { d with leftOut := d.leftOut ++ [r] }

def addKey (showOrphans : Bool) (index : NameIndex) (t : Table) (d : Draft) (k : ForeignKey) :
    Draft :=
  let r : Reference := { table := t.name, key := k }
  if k.isShown showOrphans index then (d.write r.line).write "\n" else d.leaveOut r

def addKeys (showOrphans : Bool) (index : NameIndex) (d : Draft) (t : Table) : Draft :=
  t.foreignKeys.foldl (addKey showOrphans index t) d

def addBlock (d : Draft) (t : Table) : Draft := d.write t.blockText

def ofTables (title : String) (showOrphans : Bool) (tables : List Table) : Draft :=
  let opened := (({} : Draft).write "@startuml\n").write ("Title: " ++ title ++ "\n")
  let described := tables.foldl addBlock opened
  let index := nameIndex tables
  let linked := tables.foldl (addKeys showOrphans index) described
  (linked.write "\n").write "@enduml\n"

end Draft

end SchemaDiagram

import SchemaDiagram.Schema.Basic
import Std.Data.HashMap

namespace SchemaDiagram

structure Reference where
  table : String
  key : ForeignKey
  deriving DecidableEq, Repr

def absentPart : String := "null"

namespace Reference

def column (r : Reference) : String := r.key.column.getD absentPart

def referencedTable (r : Reference) : String := r.key.referencedTable.getD absentPart

def referencedColumn (r : Reference) : String := r.key.referencedColumn.getD absentPart

def line (r : Reference) : String :=
  r.table ++ "::" ++ r.column ++ " -- " ++ r.referencedTable ++ "::" ++ r.referencedColumn

end Reference

abbrev NameIndex := Std.HashMap String Table

/-- Of several tables with the same name the last one is kept. -/
def nameIndex (tables : List Table) : NameIndex := .ofList (tables.map fun t => (t.name, t))

def ForeignKey.isShown (k : ForeignKey) (showOrphans : Bool) (index : NameIndex) : Bool :=
  k.referencedTable.any index.contains || showOrphans

def references (tables : List Table) : List Reference :=
  tables.flatMap fun t => t.foreignKeys.map fun k => { table := t.name, key := k }

def isDrawn (showOrphans : Bool) (tables : List Table) (r : Reference) : Bool :=
  r.key.referencedTable.any (fun name => tables.any (·.name == name)) || showOrphans

def drawn (showOrphans : Bool) (tables : List Table) : List Reference :=
  (references tables).filter (isDrawn showOrphans tables)

def omitted (showOrphans : Bool) (tables : List Table) : List Reference :=
  (references tables).filter fun r => !isDrawn showOrphans tables r

theorem contains_nameIndex (tables : List Table) (name : String) :
    (nameIndex tables).contains name = tables.any (·.name == name) := by
  rw [nameIndex, Std.HashMap.contains_ofList, List.map_map, List.contains_eq_any_beq,
    List.any_map]
  congr 1
  funext t
  exact Bool.beq_comm

theorem isShown_nameIndex (showOrphans : Bool) (tables : List Table) (r : Reference) :
    r.key.isShown showOrphans (nameIndex tables) = isDrawn showOrphans tables r := by
  cases h : r.key.referencedTable with
  | none => simp only [ForeignKey.isShown, isDrawn, h, Option.any_none]
  | some name => simp only [ForeignKey.isShown, isDrawn, h, Option.any_some, contains_nameIndex]

theorem length_drawn_add_length_omitted (showOrphans : Bool) (tables : List Table) :
    (drawn showOrphans tables).length + (omitted showOrphans tables).length =
      (references tables).length := by
  simp only [drawn, omitted]
  induction references tables with
  | nil => rfl
  | cons r rs ih =>
      cases h : isDrawn showOrphans tables r <;> simp [h] <;> omega

end SchemaDiagram

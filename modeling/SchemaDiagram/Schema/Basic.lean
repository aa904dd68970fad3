namespace SchemaDiagram

structure Column where
  name : String := ""
  type : Option String := none
  /-- The length or precision between the parentheses after the type. -/
  scale : Option String := none
  notNull : Bool := false
  autoIncrement : Bool := false
  /-- The default value as written, quotes included. -/
  defaultText : Option String := none
  primary : Bool := false
  foreign : Bool := false
  deriving DecidableEq, Repr, Inhabited

structure ForeignKey where
  column : Option String := none
  referencedTable : Option String := none
  referencedColumn : Option String := none
  deriving DecidableEq, Repr, Inhabited

structure PrimaryKey where
  columns : List String := []
  deriving DecidableEq, Repr, Inhabited

structure UniqueKey where
  name : String := ""
  columns : List String := []
  deriving DecidableEq, Repr, Inhabited

structure Table where
  name : String := ""
  columns : List Column := []
  foreignKeys : List ForeignKey := []
  primaryKeys : List PrimaryKey := []
  uniqueKeys : List UniqueKey := []
  deriving DecidableEq, Repr, Inhabited

namespace Column

def markForeign (c : Column) (marked : Bool) : Column := { c with foreign := marked }

def markPrimary (c : Column) (marked : Bool) : Column := { c with primary := marked }

def unmarked (c : Column) : Column := { c with foreign := false, primary := false }

@[simp] theorem markForeign_markForeign (c : Column) (a b : Bool) :
    (c.markForeign a).markForeign b = c.markForeign b := rfl

@[simp] theorem markPrimary_markPrimary (c : Column) (a b : Bool) :
    (c.markPrimary a).markPrimary b = c.markPrimary b := rfl

theorem markPrimary_markForeign (c : Column) (a b : Bool) :
    (c.markForeign a).markPrimary b = (c.markPrimary b).markForeign a := rfl

end Column

namespace Table

def column? (t : Table) (name : String) : Option Column := t.columns.find? (·.name == name)

def foreignKeyColumns (t : Table) : List String := t.foreignKeys.filterMap (·.column)

def primaryKeyColumns (t : Table) : List String := t.primaryKeys.flatMap (·.columns)

end Table

end SchemaDiagram

import SchemaDiagram.Ddl.Name

namespace SchemaDiagram.Ddl

open Text

def headerHere (s : List Char) : Option (List Char) := do
  let r ← after "CREATE TABLE " s
  let (_, r) := afterOptional "IF NOT EXISTS " r
  let (name, r) ← declaredName r
  let r ← after " (" r
  guard (onlyBlanks r)
  pure name

def headerName : List Char → Option (List Char)
  | [] => none
  | c :: r =>
      match headerHere (c :: r) with
      | some name => some name
      | none => if c = '\n' then none else headerName r

end SchemaDiagram.Ddl

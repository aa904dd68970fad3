import SchemaDiagram.Text.Blank
import SchemaDiagram.Text.WordChar

namespace SchemaDiagram.Ddl

open Text

def afterAnyCase (word : String) (s : List Char) : Option (List Char) :=
  if (s.take word.length).map Char.toUpper = word.toList then some (s.drop word.length) else none

def startsStatement (line : String) : Bool :=
  match afterAnyCase "CREATE" (skipBlanks line.toList) with
  | some (c :: r) =>
      isBlank c && match afterAnyCase "TABLE" (skipBlanks r) with
        | some r => atWordEnd r
        | none => false
  | _ => false

def closesStatement (line : String) : Bool := (skipBlanks line.toList).head? == some ')'

def statementsFrom : Option (List String) → List String → List (List String)
  | opened, [] => opened.toList
  | opened, line :: rest =>
      if startsStatement line then opened.toList ++ statementsFrom (some [line]) rest
      else match opened with
        | none => statementsFrom none rest
        | some group =>
            if closesStatement line then (group ++ [line]) :: statementsFrom none rest
            else statementsFrom (some (group ++ [line])) rest

def statements (lines : List String) : List (List String) := statementsFrom none lines

end SchemaDiagram.Ddl

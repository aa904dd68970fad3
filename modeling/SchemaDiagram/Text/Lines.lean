namespace SchemaDiagram.Text

def lines : List Char → List (List Char)
  | [] => []
  | '\r' :: '\n' :: r => [] :: lines r
  | c :: r =>
      if c = '\n' then [] :: lines r
      else match lines r with
        | [] => [[c]]
        | l :: ls => (c :: l) :: ls

def unlines (ls : List String) : String := String.join (ls.map (· ++ "\n"))

end SchemaDiagram.Text

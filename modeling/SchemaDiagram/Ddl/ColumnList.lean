import SchemaDiagram.Ddl.Name

namespace SchemaDiagram.Ddl

open Text

def dropTicks (s : List Char) : List Char := s.dropWhile (· == tick)

def bareName (s : List Char) : List Char := (dropTicks (dropTicks (trim s)).reverse).reverse

def columnNames (s : List Char) : List (List Char) :=
  ((s.splitOn ',').map bareName).filter (· ≠ [])

def columnList (text : String) : List String := (columnNames text.toList).map String.ofList

def quotedText (s : List Char) : Option (List Char × List Char) :=
  (keyName s).map fun p => (tick :: p.1 ++ [tick], p.2)

theorem quotedText_length {s n r : List Char} (h : quotedText s = some (n, r)) :
    r.length < s.length := by
  simp only [quotedText, keyName, Option.map_eq_some_iff, Option.filter_eq_some_iff] at h
  obtain ⟨⟨m, rest⟩, ⟨hq, _⟩, he⟩ := h
  simp only [Prod.mk.injEq] at he
  have hl := quotedName_length hq
  rw [he.2] at hl
  omega

def quotedListTail (s : List Char) : List Char × List Char :=
  match s with
  | ',' :: r =>
      match _h : quotedText (skipBlanks r) with
      | some (name, rest) =>
          let tail := quotedListTail rest
          (',' :: r.takeWhile isBlank ++ name ++ tail.1, tail.2)
      | none => ([], s)
  | _ => ([], s)
termination_by s.length
decreasing_by
  have h1 := quotedText_length _h
  have h2 := (List.dropWhile_sublist isBlank (l := r)).length_le
  simp only [skipBlanks] at h1
  simp only [List.length_cons]
  omega

def quotedList (s : List Char) : Option (List Char × List Char) :=
  (quotedText s).map fun p => (p.1 ++ (quotedListTail p.2).1, (quotedListTail p.2).2)

end SchemaDiagram.Ddl

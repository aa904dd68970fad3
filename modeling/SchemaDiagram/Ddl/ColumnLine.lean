import SchemaDiagram.Ddl.KeyLine

namespace SchemaDiagram.Ddl

open Text

/-- The type keywords, each before its own prefixes. -/
def typeKeywords : List String := ["int", "varchar", "tinyint", "datetime", "decimal", "date"]

def typeKeyword (s : List Char) : Option (String × List Char) :=
  typeKeywords.findSome? fun word => (after word s).map (word, ·)

def isPlainNumeral (limit : Nat) (s : List Char) : Bool :=
  (List.range (limit + 1)).any fun n => Nat.toDigits 10 n == s

def precisionLimit : Nat := 65

def placesLimit : Nat := 30

def isScale (digits : List Char) (places : Option (List Char)) : Bool :=
  match places with
  | none => 1 ≤ digits.length && digits.length ≤ 5
  | some p => isPlainNumeral precisionLimit digits && isPlainNumeral placesLimit p

def scale? (s : List Char) : Option (List Char × List Char) := do
  let r ← after "(" s
  let digits := r.takeWhile Char.isDigit
  let r := r.dropWhile Char.isDigit
  match after "," r with
  | none => do
      let r ← after ")" r
      guard (isScale digits none)
      pure (digits, r)
  | some r => do
      let places := r.takeWhile Char.isDigit
      let r ← after ")" (r.dropWhile Char.isDigit)
      guard (isScale digits (some places))
      pure (digits ++ ',' :: places, r)

def literalBody : List Char → Option (List Char × List Char)
  | [] => none
  | '\'' :: '\'' :: r => (literalBody r).map fun p => ('\'' :: '\'' :: p.1, p.2)
  | c :: r => if c = '\'' then some ([], r) else (literalBody r).map fun p => (c :: p.1, p.2)

def literal? (s : List Char) : Option (List Char × List Char) := do
  let r ← after "'" s
  let (body, r) ← literalBody r
  pure ('\'' :: body ++ ['\''], r)

def default? (s : List Char) : Option (List Char × List Char) := do
  let r ← after " DEFAULT " s
  match after "NULL" r with
  | some r => pure ("NULL".toList, r)
  | none => literal? r

def optionalPart (part : List Char → Option (List Char × List Char)) (s : List Char) :
    Option String × List Char :=
  match part s with
  | some (text, r) => (some (String.ofList text), r)
  | none => (none, s)

def column? (line : List Char) : Option Column := do
  let (name, r) ← declaredName (skipBlanks line)
  let r ← after " " r
  let (type, r) ← typeKeyword r
  let (scale, r) := optionalPart scale? r
  let (notNull, r) := afterOptional " NOT NULL" r
  let (autoIncrement, r) := afterOptional " AUTO_INCREMENT" r
  let (defaultText, r) := optionalPart default? r
  guard (endsDefinition r)
  pure {
    name := String.ofList name
    type := some type
    scale, notNull, autoIncrement, defaultText }

end SchemaDiagram.Ddl

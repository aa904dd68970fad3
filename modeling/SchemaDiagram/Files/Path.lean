namespace SchemaDiagram.Path

def dropTrailing : List Char → List Char
  | '/' :: r => dropTrailing r
  | '.' :: '/' :: r => dropTrailing r
  | ['.'] => []
  | r => r

structure DottedName where
  folder : List Char
  stem : List Char
  ext : List Char
  isEnd : Bool

def dottedName? (path : List Char) : Option DottedName :=
  let back := dropTrailing path.reverse
  let name := back.takeWhile (· ≠ '/')
  let ext := name.takeWhile (· ≠ '.')
  match name.dropWhile (· ≠ '.') with
  | '.' :: c :: stem =>
      if name = ['.', '.'] then none
      else some {
        folder := (back.dropWhile (· ≠ '/')).reverse
        stem := (c :: stem).reverse
        ext := ext.reverse
        isEnd := back.length == path.length }
  | _ => none

def extension? (path : String) : Option String :=
  (dottedName? path.toList).map fun d => String.ofList d.ext

def DottedName.withExtension (d : DottedName) (ext : String) : String :=
  if d.stem = ['.'] && d.isEnd then String.ofList d.folder ++ ".."
  else String.ofList (d.folder ++ d.stem) ++ "." ++ ext

def appendExtension (path : String) (ext : String) : String := path ++ "." ++ ext

def entry (folder name : String) : String :=
  if folder.toList.getLast? = some '/' then folder ++ name else folder ++ "/" ++ name

def steps (path : String) : List String :=
  ((path.toList.splitOn '/').map String.ofList).filter (· ≠ "")

def components (path : String) : List String := (steps path).filter (· ≠ ".")

def isAbsolute (path : String) : Bool := path.toList.head? == some '/'

def namesFolder (path : String) : Bool :=
  match (path.toList.splitOn '/').getLast? with
  | some s => s = [] || s = ['.'] || s = ['.', '.']
  | none => true

end SchemaDiagram.Path

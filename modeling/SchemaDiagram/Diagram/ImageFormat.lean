import SchemaDiagram.Text.WordChar

namespace SchemaDiagram

open Text

inductive ImageFormat where
  | png
  | svg
  deriving DecidableEq, Repr, Inhabited

namespace ImageFormat

def extension : ImageFormat → String
  | .png => "png"
  | .svg => "svg"

def rendererFlag (f : ImageFormat) : String := "-t" ++ f.extension

def ofExtension? (ext : String) : Option ImageFormat :=
  if lowerCase ext = "png" then some .png
  else if lowerCase ext = "svg" then some .svg
  else none

def ofName? (name : String) : Option ImageFormat :=
  if lowerCase name = "raster" then some .png
  else if lowerCase name = "vector" then some .svg
  else ofExtension? name

def unknownMessage (name : String) : String :=
  "Unknown output format: " ++ name ++ ". Valid options: png, svg"

end ImageFormat

end SchemaDiagram

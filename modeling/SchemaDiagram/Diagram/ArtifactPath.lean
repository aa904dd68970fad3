import SchemaDiagram.Diagram.ImageFormat
import SchemaDiagram.Files.Path

namespace SchemaDiagram

open Text

def sourceExtension : String := "puml"

def isArtifactExtension (ext : String) : Bool :=
  (ImageFormat.ofExtension? ext).isSome || lowerCase ext = sourceExtension

def artifactPath (filename ext : String) : String :=
  match Path.dottedName? filename.toList with
  | some d =>
      if isArtifactExtension (String.ofList d.ext) then d.withExtension ext
      else Path.appendExtension filename ext
  | none => Path.appendExtension filename ext

end SchemaDiagram

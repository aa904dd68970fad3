import SchemaDiagram.FilePattern
import SchemaDiagram.Rendering.Child
import SchemaDiagram.Settings.Reader

namespace SchemaDiagram

inductive Error where
  | emptyTableList
  | missingFilename (ext : String)
  | invalidSetting (cause : InvalidSetting)
  | access (path : String) (cause : AccessFailure)
  | rendererNotFound (program : String)
  | renderFailed (program : String) (status : ExitStatus)
  | invalidDirectory (path : String)
  | invalidPattern (pattern : String) (cause : FilePattern.Malformed)
  | malformedSettings (path : String) (cause : Settings.Malformed)
  deriving DecidableEq, Repr

namespace Error

def cause? : Error → Option String
  | .access _ cause => some cause.message
  | .invalidPattern _ cause => some cause.message
  | .malformedSettings _ cause => some cause.message
  | _ => none

def message : Error → String
  | .emptyTableList => "unable to convert an empty table list to a diagram"
  | .missingFilename ext => "a filename is required to generate a ." ++ ext ++ " file"
  | .invalidSetting cause => "invalid configuration: " ++ cause.message
  | .access path cause => "I/O error on " ++ path ++ ": " ++ cause.message
  | .rendererNotFound program =>
      "renderer '" ++ program ++ "' not found, install PlantUML or pass --renderer"
  | .renderFailed program status =>
      "renderer '" ++ program ++ "' failed with status: " ++ status.message
  | .invalidDirectory path => "source directory does not exist: " ++ path
  | .invalidPattern pattern cause =>
      "invalid file pattern '" ++ pattern ++ "': " ++ cause.message
  | .malformedSettings path cause =>
      "failed to parse config file " ++ path ++ ": " ++ cause.message

def chain (e : Error) : String :=
  match e.cause? with
  | some cause => e.message ++ ": " ++ cause
  | none => e.message

end Error

def Settings.checked (s : Settings) : Except Error Unit :=
  match s.validate with
  | .ok () => .ok ()
  | .error cause => .error (.invalidSetting cause)

end SchemaDiagram

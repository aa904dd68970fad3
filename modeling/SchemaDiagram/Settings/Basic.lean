import SchemaDiagram.Diagram.ArtifactPath
import SchemaDiagram.Text.Blank

namespace SchemaDiagram

open Text

structure Settings where
  title : String := "Entity Relationship Diagram"
  filename : Option String := none
  format : ImageFormat := .png
  keepSource : Bool := false
  showOrphans : Bool := false
  limitSize : Nat := 4096
  renderer : String := "plantuml"
  deriving DecidableEq, Repr, Inhabited

inductive InvalidSetting where
  | zeroLimitSize
  | blankRenderer
  deriving DecidableEq, Repr

def InvalidSetting.message : InvalidSetting → String
  | .zeroLimitSize => "limit_size must be a positive number of pixels"
  | .blankRenderer => "renderer must name an executable"

namespace Settings

def imagePath? (s : Settings) : Option String :=
  s.filename.map fun f => artifactPath f s.format.extension

def sourcePath? (s : Settings) : Option String :=
  s.filename.map fun f => artifactPath f sourceExtension

def validate (s : Settings) : Except InvalidSetting Unit :=
  if s.limitSize = 0 then .error .zeroLimitSize
  else if onlyBlanks s.renderer.toList then .error .blankRenderer
  else .ok ()

theorem validate_eq_ok_iff {s : Settings} :
    s.validate = .ok () ↔ s.limitSize ≠ 0 ∧ onlyBlanks s.renderer.toList = false := by
  simp only [validate]
  split
  · simp [*]
  · split <;> simp_all

end Settings

end SchemaDiagram

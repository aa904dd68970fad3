import SchemaDiagram.Diagram.Text
import SchemaDiagram.Rendering.Renderer

namespace SchemaDiagram

def Draft.omissions (d : Draft) : List Event := d.leftOut.map .omittedRelationship

namespace Settings

def draft (s : Settings) (tables : List Table) : Draft :=
  Draft.ofTables s.title s.showOrphans tables

def describe (s : Settings) (tables : List Table) : String := (s.draft tables).text

def omissions (s : Settings) (tables : List Table) : List Event := (s.draft tables).omissions

def relationshipCount (s : Settings) (tables : List Table) : Nat :=
  let index := nameIndex tables
  (tables.flatMap (·.foreignKeys)).countP (·.isShown s.showOrphans index)

def artifacts (s : Settings) (tables : List Table) : Except Error (Option String × String) :=
  if tables.isEmpty then .error .emptyTableList
  else match s.keepSource, s.sourcePath?, s.imagePath? with
    | true, none, _ => .error (.missingFilename sourceExtension)
    | _, _, none => .error (.missingFilename s.format.extension)
    | true, some source, some image => .ok (some source, image)
    | false, _, some image => .ok (none, image)

def produce (s : Settings) (render : Renderer) (tables : List Table) : Job Unit := do
  let (source?, image) ← Job.ofExcept (s.artifacts tables)
  let draft := s.draft tables
  Job.report draft.omissions
  match source? with
  | some path => do
      Job.writeFile path draft.text.toUTF8
      Job.report [.wroteSource path]
  | none => Job.report [.describedDiagram draft.text]
  render { source := draft.text, format := s.format, limitSize := s.limitSize, output := image }
  Job.report [.renderedDiagram image tables.length]

end Settings

end SchemaDiagram

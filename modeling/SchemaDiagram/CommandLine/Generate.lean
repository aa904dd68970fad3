import SchemaDiagram.CommandLine.Command
import SchemaDiagram.Harvest
import SchemaDiagram.JsonValue

namespace SchemaDiagram.CommandLine

inductive Failure where
  | failed (e : Error)
  | notDrawn (input : String) (e : Error)
  | unknownFormat (name : String)
  | missingDump (path : String)
  | noTables (input : String)
  deriving DecidableEq, Repr

def Failure.message : Failure → String
  | .failed e => e.chain
  | .notDrawn input e => "failed to generate diagram from " ++ input ++ ": " ++ e.chain
  | .unknownFormat name => ImageFormat.unknownMessage name
  | .missingDump path => "dump file does not exist: " ++ path
  | .noTables input => "no CREATE TABLE statements found in " ++ input

abbrev Work := DeskJob Failure

def Work.ofJob {α : Type} (wrap : Error → Failure) (job : Job α) : Work α :=
  ExceptT.adapt wrap job

namespace GenerateOptions

def format? (o : GenerateOptions) : Except Failure (Option ImageFormat) :=
  match o.format with
  | some name =>
      match ImageFormat.ofName? name with
      | some f => .ok (some f)
      | none => .error (.unknownFormat name)
  | none => .ok ((o.output.bind Path.extension?).bind ImageFormat.ofExtension?)

def merge (o : GenerateOptions) (s : Settings) : Except Failure Settings := do
  let format ← o.format?
  .ok {
    title := o.title.getD s.title
    filename := o.output.or s.filename
    format := format.getD s.format
    keepSource := s.keepSource || o.keepSource
    showOrphans := s.showOrphans || o.showOrphans
    limitSize := o.limitSize.getD s.limitSize
    renderer := o.renderer.getD s.renderer }

def settings (o : GenerateOptions) : Work Settings := do
  let base ← match o.config with
    | some path => Work.ofJob .failed (Settings.load path)
    | none => pure {}
  match o.merge base with
  | .ok s => pure s
  | .error e => throw e

def source (o : GenerateOptions) : Work Source := do
  if o.dump then
    if (← get).files.isFile o.input then Work.ofJob .failed (Source.ofDump o.input)
    else throw (.missingDump o.input)
  else Work.ofJob .failed (Source.ofFolder o.input (o.pattern.getD Source.defaultPattern))

end GenerateOptions

def omittedMessage (omitted : Nat) : String :=
  "  " ++ toString omitted
    ++ " foreign keys to tables outside the diagram omitted (use --show-orphans)"

def summaryNotices (tables : List Table) (relationships : Nat) : List Event :=
  let columns := (tables.flatMap (·.columns)).length
  let keys := (tables.flatMap (·.foreignKeys)).length
  .notice ("\nERD: " ++ toString tables.length ++ " tables, " ++ toString columns
      ++ " columns, " ++ toString relationships ++ " relationships")
    :: (if relationships < keys then [.notice (omittedMessage (keys - relationships))] else [])

def closingNotices (s : Settings) (tables : List Table) : List Event :=
  let source := (s.sourcePath?.filter fun _ => s.keepSource).map fun path =>
    Event.notice ("PlantUML source written to: " ++ path)
  let image := s.imagePath?.map fun path => Event.notice ("ERD written to: " ++ path)
  source.toList ++ image.toList ++ summaryNotices tables (s.relationshipCount tables)

def collectTables (d : Ddl.Dialect) : List Table → List SourceItem → Job (List Table)
  | tables, [] => pure tables
  | tables, item :: rest => do
      let table := Table.ofLines? d (← Job.ofExcept item)
      Job.report (table.toList.map .assembledTable)
      collectTables d (tables ++ table.toList) rest

def exportSchema (input : String) (items : List SourceItem) : Work String := do
  let tables ← Work.ofJob .failed (collectTables Ddl.mysql [] items)
  if tables.isEmpty then throw (.noTables input)
  pure (exportText tables)

def drawSchema (launch : Launcher) (s : Settings) (input : String) (items : List SourceItem) :
    Work Unit := do
  Work.ofJob .failed (Job.report
    [.notice ("Generating ERD: " ++ input ++ " [format: " ++ s.format.extension ++ "]")])
  let render := Renderer.ofProgram launch s.renderer
  let tables ← Work.ofJob (.notDrawn input) (generate Ddl.mysql (s.produce render) items)
  Work.ofJob .failed (Job.report (closingNotices s tables))

def runGenerate (launch : Launcher) (o : GenerateOptions) : Work String := do
  let s ← o.settings
  let source ← o.source
  Work.ofJob .failed (Job.ofExcept s.checked)
  let items := source.items (← get).files
  if o.json then exportSchema o.input items
  else do
    drawSchema launch s o.input items
    pure ""

end SchemaDiagram.CommandLine

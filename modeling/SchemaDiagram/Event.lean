import SchemaDiagram.Diagram.Relationship
import SchemaDiagram.Diagram.ImageFormat
import SchemaDiagram.Text.Quoted

namespace SchemaDiagram

open Text

structure RenderRequest where
  source : String
  format : ImageFormat
  limitSize : Nat
  output : String
  deriving DecidableEq, Repr

inductive Event where
  | listedFiles (directory pattern : String) (files : Nat)
  | splitDump (statements : Nat)
  | assembledTable (table : Table)
  | skippedGroup (index : Nat) (firstLine : String)
  | omittedRelationship (reference : Reference)
  | describedDiagram (text : String)
  | wroteSource (path : String)
  | rendering (program : String) (request : RenderRequest)
  | renderedDiagram (path : String) (tables : Nat)
  | notice (text : String)
  deriving DecidableEq, Repr

inductive LogLevel where
  | debug
  | info
  | warn
  deriving DecidableEq, Repr

namespace LogLevel

def label : LogLevel → String
  | .debug => "DEBUG"
  | .info => " INFO"
  | .warn => " WARN"

end LogLevel

structure LogEntry where
  level : LogLevel
  message : String
  fields : List (String × String)

def LogEntry.line (e : LogEntry) : String :=
  e.level.label ++ " " ++ e.message ++ String.join (e.fields.map fun f => " " ++ f.1 ++ "=" ++ f.2)

namespace Event

def logEntry? : Event → Option LogEntry
  | .listedFiles directory pattern files => some {
      level := .debug
      message := "listed source files"
      fields := [("directory", directory), ("pattern", quoted pattern),
        ("files", toString files)] }
  | .splitDump statements => some {
      level := .debug
      message := "split dump into statements"
      fields := [("statements", toString statements)] }
  | .assembledTable t => some {
      level := .debug
      message := "parsed table"
      fields := [("table", t.name), ("columns", toString t.columns.length),
        ("foreign_keys", toString t.foreignKeys.length),
        ("primary_keys", toString t.primaryKeys.length)] }
  | .skippedGroup index firstLine => some {
      level := .warn
      message := "skipping line-group without a CREATE TABLE header"
      fields := [("group", toString index), ("first_line", quoted firstLine)] }
  | .omittedRelationship r => some {
      level := .warn
      message := "omitting relationship to a table outside the diagram"
      fields := [("table", r.table), ("column", quoted r.column),
        ("references", quoted r.referencedTable)] }
  | .describedDiagram text => some {
      level := .debug
      message := "generated diagram source"
      fields := [("diagram", text)] }
  | .wroteSource path => some {
      level := .info
      message := "wrote diagram source"
      fields := [("path", path)] }
  | .rendering program request => some {
      level := .debug
      message := "rendering diagram"
      fields := [("program", program), ("output", request.output),
        ("format", request.format.extension)] }
  | .renderedDiagram path tables => some {
      level := .info
      message := "rendered diagram"
      fields := [("path", path), ("tables", toString tables)] }
  | .notice _ => none

def isShown (verbose : Bool) (e : Event) : Bool :=
  match e.logEntry? with
  | some entry => verbose || entry.level ≠ .debug
  | none => true

def line (e : Event) : String :=
  match e with
  | .notice text => text
  | _ => (e.logEntry?.map LogEntry.line).getD ""

end Event

end SchemaDiagram

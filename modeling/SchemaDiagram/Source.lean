import SchemaDiagram.Ddl.Statement
import SchemaDiagram.Job
import SchemaDiagram.Text.Lines

namespace SchemaDiagram

open Text

abbrev SourceItem := Except Error (List String)

inductive Source where
  | files (paths : List String)
  | statements (groups : List (List String))

namespace Source

def textLines (text : String) : List String := (lines text.toList).map String.ofList

def readLines (w : Workspace) (path : String) : SourceItem :=
  match w.readText path with
  | .ok text => .ok (textLines text)
  | .error cause => .error (.access path cause)

/-- The items still to come, if the files stay as they are. -/
def items (w : Workspace) : Source → List SourceItem
  | .files paths => paths.map (readLines w)
  | .statements groups => groups.map .ok

def drop (n : Nat) : Source → Source
  | .files paths => .files (paths.drop n)
  | .statements groups => .statements (groups.drop n)

def remaining? : Source → Option Nat
  | .files paths => some paths.length
  | .statements _ => none

def next (w : Workspace) (s : Source) : Option SourceItem × Source :=
  ((s.items w).head?, s.drop 1)

def defaultPattern : String := "*.sql"

def matching (w : Workspace) (folder : Location) (pattern : FilePattern) : List String :=
  (((w.listedNames folder).filterMap String.fromUTF8?).filter pattern.accepts).mergeSort
    fun a b => a ≤ b

def ofFolder (directory : String) (pattern : String) : Job Source := do
  let w ← Job.files
  match w.find directory with
  | .ok (at_, .folder) =>
      match FilePattern.parse pattern with
      | .error cause => throw (.invalidPattern pattern cause)
      | .ok parts => do
          let paths := ((matching w at_ parts).map (Path.entry directory)).filter Workspace.fits
          Job.report [.listedFiles directory pattern paths.length]
          pure (.files paths)
  | _ => throw (.invalidDirectory directory)

def ofDumpText (text : String) : Job Source := do
  let groups := Ddl.statements (textLines text)
  Job.report [.splitDump groups.length]
  pure (.statements groups)

def ofDump (path : String) : Job Source := do
  ofDumpText (← Job.readText path)

end Source

end SchemaDiagram

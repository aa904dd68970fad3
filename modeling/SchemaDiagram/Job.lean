import SchemaDiagram.Error
import SchemaDiagram.Event

namespace SchemaDiagram

structure Desk where
  files : Workspace := {}
  events : List Event := []

abbrev DeskJob (ε : Type) := ExceptT ε (StateM Desk)

abbrev Job := DeskJob Error

namespace Job

def report (events : List Event) : Job Unit :=
  modify fun d => { d with events := d.events ++ events }

def files : Job Workspace := do
  let d ← get
  pure d.files

def writeFile (path : String) (content : ByteArray) : Job Unit := do
  match (← files).write path content with
  | .ok files => modify fun d => { d with files }
  | .error cause => throw (.access path cause)

def readText (path : String) : Job String := do
  match (← files).readText path with
  | .ok text => pure text
  | .error cause => throw (.access path cause)

def ofExcept {α : Type} : Except Error α → Job α
  | .ok a => pure a
  | .error e => throw e

end Job

def Settings.load (path : String) : Job Settings := do
  match Settings.ofYaml (← Job.readText path) with
  | .ok s => pure s
  | .error cause => throw (.malformedSettings path cause)

end SchemaDiagram

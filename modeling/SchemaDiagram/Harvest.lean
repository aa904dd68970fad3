import SchemaDiagram.Assembly
import SchemaDiagram.Diagram.Production
import SchemaDiagram.Source

namespace SchemaDiagram

inductive Gathered where
  | table (table : Table)
  | skipped (index : Nat) (firstLine : String)
  deriving DecidableEq, Repr

structure Harvest where
  gathered : List Gathered := []
  failure : Option Error := none
  taken : Nat := 0

namespace Gathered

def table? : Gathered → Option Table
  | .table t => some t
  | .skipped .. => none

def event : Gathered → Event
  | .table t => .assembledTable t
  | .skipped index firstLine => .skippedGroup index firstLine

def ofGroup (d : Ddl.Dialect) (index : Nat) (group : List String) : Gathered :=
  match Table.ofLines? d group with
  | some t => .table t
  | none => .skipped index (group.headD "")

end Gathered

namespace Harvest

def gatherFrom (d : Ddl.Dialect) : Nat → List SourceItem → Harvest
  | _, [] => {}
  | _, .error e :: _ => { failure := some e, taken := 1 }
  | index, .ok group :: rest =>
      let h := gatherFrom d (index + 1) rest
      { h with
        gathered := Gathered.ofGroup d index group :: h.gathered
        taken := h.taken + 1 }

def gather (d : Ddl.Dialect) (items : List SourceItem) : Harvest := gatherFrom d 0 items

def tables (h : Harvest) : List Table := h.gathered.filterMap Gathered.table?

def events (h : Harvest) : List Event := h.gathered.map Gathered.event

def result (h : Harvest) : Except Error (List Table) :=
  match h.failure with
  | some e => .error e
  | none => .ok h.tables

end Harvest

def handOver (produce : List Table → Job Unit) (tables : List Table) : Job Unit := do
  if tables.isEmpty then throw .emptyTableList
  produce tables

def generate (d : Ddl.Dialect) (produce : List Table → Job Unit) (items : List SourceItem) :
    Job (List Table) := do
  let h := Harvest.gather d items
  Job.report h.events
  let tables ← Job.ofExcept h.result
  handOver produce tables
  pure tables

end SchemaDiagram

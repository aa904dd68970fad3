import SchemaDiagram.CommandLine.Run
import SchemaDiagram.Proofs.Harvest

namespace SchemaDiagram.CommandLine

open Ddl Harvest

theorem Work.runAt_ofJob {α : Type} (wrap : Error → Failure) (job : Job α) (d : Desk) :
    (ofJob wrap job).runAt d = ((job.runAt d).1.mapError wrap, (job.runAt d).2) := rfl

theorem runAt_collectTables (d : Dialect) (index : Nat) (tables : List Table)
    (items : List SourceItem) (desk : Desk) :
    (collectTables d tables items).runAt desk =
      ((gatherFrom d index items).result.map (tables ++ ·),
        desk.log ((gatherFrom d index items).tables.map .assembledTable)) := by
  -- On the items. The other loop counts its groups for the warnings, so its index moves along.
  induction items generalizing index tables desk with
  | nil =>
      change _ = (Except.ok (tables ++ []), desk.log [])
      rw [List.append_nil, Desk.log_nil]
      rfl
  | cons item rest ih =>
      cases item with
      | error e =>
          change _ = (Except.error e, desk.log [])
          rw [Desk.log_nil]
          rfl
      | ok group =>
          have hstep : (collectTables d tables (.ok group :: rest)).runAt desk =
              (collectTables d (tables ++ (Table.ofLines? d group).toList) rest).runAt
                (desk.log ((Table.ofLines? d group).toList.map .assembledTable)) := rfl
          rw [hstep, ih (index + 1), tables_gatherFrom_ok_cons, result_gatherFrom_ok_cons,
            List.map_append, Desk.log_append]
          cases (gatherFrom d (index + 1) rest).result with
          | error e => rfl
          | ok found => simp only [Except.map, List.append_assoc]

theorem runAt_exportSchema (input : String) (items : List SourceItem) (d : Desk) :
    (exportSchema input items).runAt d =
      (match firstError? items, (leadingGroups items).filterMap (Table.ofLines? mysql) with
        | some e, _ => .error (.failed e)
        | none, [] => .error (.noTables input)
        | none, tables => .ok (exportText tables),
      d.log (((leadingGroups items).filterMap (Table.ofLines? mysql)).map .assembledTable)) := by
  rw [exportSchema, DeskJob.runAt_bind, Work.runAt_ofJob, runAt_collectTables mysql 0, ← gather,
    Harvest.result, failure_gather, tables_gather]
  cases firstError? items with
  | some e => rfl
  | none =>
      cases (leadingGroups items).filterMap (Table.ofLines? mysql) with
      | nil => rfl
      | cons t ts => rfl

def closing (s : Settings) (input : String) :
    Except Error (List Table) × Desk → Except Failure String × Desk
  | (.ok tables, after) => (.ok "", after.log (closingNotices s tables))
  | (.error e, after) => (.error (.notDrawn input e), after)

def openingNotice (s : Settings) (input : String) : Event :=
  .notice ("Generating ERD: " ++ input ++ " [format: " ++ s.format.extension ++ "]")

theorem runAt_drawSchema (launch : Launcher) (s : Settings) (input : String)
    (items : List SourceItem) (d : Desk) :
    DeskJob.runAt (do drawSchema launch s input items; pure "") d =
      closing s input
        ((generate mysql (s.produce (Renderer.ofProgram launch s.renderer)) items).runAt
          (d.log [openingNotice s input])) := by
  rw [DeskJob.runAt_bind, drawSchema, DeskJob.runAt_bind, Work.runAt_ofJob, Job.runAt_report]
  dsimp only [Except.mapError]
  rw [DeskJob.runAt_bind, Work.runAt_ofJob, openingNotice]
  rcases (generate mysql _ items).runAt _ with ⟨result, after⟩
  cases result <;> rfl

end SchemaDiagram.CommandLine

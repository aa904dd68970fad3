import SchemaDiagram.Job

namespace SchemaDiagram

namespace Desk

def log (d : Desk) (events : List Event) : Desk := { d with events := d.events ++ events }

@[simp] theorem files_log (d : Desk) (events : List Event) : (d.log events).files = d.files := rfl

theorem log_nil (d : Desk) : d.log [] = d := by rw [log, List.append_nil]

theorem log_append (d : Desk) (events more : List Event) :
    d.log (events ++ more) = (d.log events).log more := by
  rw [log, ← List.append_assoc, log, log]

end Desk

namespace DeskJob

variable {ε α β : Type} {job : DeskJob ε α} {d d' : Desk}

def runAt (job : DeskJob ε α) (d : Desk) : Except ε α × Desk := job.run.run d

@[simp] theorem runAt_pure (a : α) (d : Desk) : runAt (pure a : DeskJob ε α) d = (.ok a, d) := rfl

@[simp] theorem runAt_throw (e : ε) (d : Desk) :
    runAt (throw e : DeskJob ε α) d = (.error e, d) := rfl

theorem runAt_get (d : Desk) : runAt (get : DeskJob ε Desk) d = (.ok d, d) := rfl

theorem runAt_bind (job : DeskJob ε α) (next : α → DeskJob ε β) (d : Desk) :
    runAt (job >>= next) d =
      match runAt job d with
      | (.ok a, d) => runAt (next a) d
      | (.error e, d) => (.error e, d) := by
  unfold runAt
  rw [ExceptT.run_bind, StateT.run_bind]
  rcases job.run.run d with ⟨result, d'⟩
  cases result <;> rfl

theorem runAt_bind_of_ok {a : α} (h : runAt job d = (.ok a, d')) (next : α → DeskJob ε β) :
    runAt (job >>= next) d = runAt (next a) d' := by
  rw [runAt_bind, h]

theorem runAt_bind_of_error {e : ε} (h : runAt job d = (.error e, d')) (next : α → DeskJob ε β) :
    runAt (job >>= next) d = (.error e, d') := by
  rw [runAt_bind, h]

end DeskJob

namespace Job

open DeskJob

variable {α : Type}

@[simp] theorem runAt_report (events : List Event) (d : Desk) :
    runAt (report events) d = (.ok (), d.log events) := rfl

@[simp] theorem runAt_files (d : Desk) : runAt files d = (.ok d.files, d) := rfl

@[simp] theorem runAt_ofExcept (x : Except Error α) (d : Desk) : runAt (ofExcept x) d = (x, d) := by
  cases x with
  | ok a => exact runAt_pure a d
  | error e => exact runAt_throw e d

theorem runAt_readText (path : String) (d : Desk) :
    runAt (readText path) d = ((d.files.readText path).mapError (.access path), d) := by
  rw [readText, runAt_bind_of_ok (runAt_files d)]
  cases d.files.readText path <;> rfl

theorem runAt_writeFile (path : String) (content : ByteArray) (d : Desk) :
    runAt (writeFile path content) d =
      match d.files.write path content with
      | .ok files => (.ok (), { d with files })
      | .error cause => (.error (.access path cause), d) := by
  rw [writeFile, runAt_bind_of_ok (runAt_files d)]
  cases d.files.write path content <;> rfl

end Job

end SchemaDiagram

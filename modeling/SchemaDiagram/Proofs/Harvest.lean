import SchemaDiagram.Harvest
import SchemaDiagram.Proofs.Diagram.Production

namespace SchemaDiagram

open Ddl

def Event.skipped? : Event → Option (Nat × String)
  | .skippedGroup index firstLine => some (index, firstLine)
  | _ => none

namespace Harvest

variable {items : List SourceItem}

def leadingGroups (items : List SourceItem) : List (List String) :=
  (items.takeWhile Except.isOk).filterMap Except.toOption

def firstError? (items : List SourceItem) : Option Error :=
  items.findSome? fun
    | .ok _ => none
    | .error e => some e

@[simp] theorem leadingGroups_nil : leadingGroups [] = [] := rfl

@[simp] theorem leadingGroups_ok_cons (group : List String) (rest : List SourceItem) :
    leadingGroups (.ok group :: rest) = group :: leadingGroups rest := rfl

theorem firstError?_ok_cons (group : List String) (rest : List SourceItem) :
    firstError? (.ok group :: rest) = firstError? rest := rfl

theorem leadingGroups_map_ok (groups : List (List String)) :
    leadingGroups (groups.map .ok) = groups := by
  induction groups with
  | nil => rfl
  | cons group groups ih => rw [List.map_cons, leadingGroups_ok_cons, ih]

theorem firstError?_map_ok (groups : List (List String)) : firstError? (groups.map .ok) = none := by
  induction groups with
  | nil => rfl
  | cons group groups ih => rw [List.map_cons, firstError?_ok_cons, ih]

def groupEvents (d : Dialect) (groups : List (List String)) : List Event :=
  groups.zipIdx.map fun g => (Gathered.ofGroup d g.2 g.1).event

theorem gatherFrom_eq (d : Dialect) (index : Nat) (items : List SourceItem) :
    gatherFrom d index items = {
      gathered := ((leadingGroups items).zipIdx index).map fun g => Gathered.ofGroup d g.2 g.1
      failure := firstError? items
      taken := (leadingGroups items).length + (firstError? items).toList.length } := by
  induction items generalizing index with
  | nil => rfl
  | cons item rest ih =>
      cases item with
      | error e => rfl
      | ok group =>
          rw [gatherFrom, ih (index + 1)]
          simp only [leadingGroups_ok_cons, firstError?_ok_cons, List.zipIdx_cons, List.map_cons,
            List.length_cons, Nat.add_right_comm]

theorem table?_ofGroup (d : Dialect) (index : Nat) (group : List String) :
    (Gathered.ofGroup d index group).table? = Table.ofLines? d group := by
  unfold Gathered.ofGroup
  cases Table.ofLines? d group <;> rfl

theorem tables_gatherFrom_ok_cons (d : Dialect) (index : Nat) (group : List String)
    (rest : List SourceItem) :
    (gatherFrom d index (.ok group :: rest)).tables =
      (Table.ofLines? d group).toList ++ (gatherFrom d (index + 1) rest).tables := by
  rw [gatherFrom, Harvest.tables, List.filterMap_cons, table?_ofGroup]
  cases Table.ofLines? d group <;> rfl

theorem result_gatherFrom_ok_cons (d : Dialect) (index : Nat) (group : List String)
    (rest : List SourceItem) :
    (gatherFrom d index (.ok group :: rest)).result =
      (gatherFrom d (index + 1) rest).result.map ((Table.ofLines? d group).toList ++ ·) := by
  rw [result, tables_gatherFrom_ok_cons, result, gatherFrom]
  cases (gatherFrom d (index + 1) rest).failure <;> rfl

theorem skipped?_event_ofGroup (d : Dialect) (index : Nat) (group : List String) :
    (Gathered.ofGroup d index group).event.skipped? =
      if (Table.ofLines? d group).isNone then some (index, group.headD "") else none := by
  unfold Gathered.ofGroup
  cases Table.ofLines? d group <;> rfl

theorem tables_gather (d : Dialect) (items : List SourceItem) :
    (gather d items).tables = (leadingGroups items).filterMap (Table.ofLines? d) := by
  have htable : (Gathered.table? ∘ fun g : List String × Nat => Gathered.ofGroup d g.2 g.1) =
      Table.ofLines? d ∘ Prod.fst := by
    funext g
    exact table?_ofGroup d g.2 g.1
  rw [tables, gather, gatherFrom_eq, List.filterMap_map, htable, ← List.filterMap_map,
    List.zipIdx_map_fst]

theorem failure_gather (d : Dialect) (items : List SourceItem) :
    (gather d items).failure = firstError? items := by
  rw [gather, gatherFrom_eq]

theorem taken_gather (d : Dialect) (items : List SourceItem) :
    (gather d items).taken = (leadingGroups items).length + (firstError? items).toList.length := by
  rw [gather, gatherFrom_eq]

theorem events_gather (d : Dialect) (items : List SourceItem) :
    (gather d items).events = groupEvents d (leadingGroups items) := by
  rw [events, gather, gatherFrom_eq, List.map_map]
  rfl

theorem gatherFrom_take_taken (d : Dialect) (index : Nat) (items : List SourceItem) :
    gatherFrom d index (items.take (gatherFrom d index items).taken) =
      gatherFrom d index items := by
  induction items generalizing index with
  | nil => rfl
  | cons item rest ih =>
      cases item with
      | error e => rfl
      | ok group => rw [gatherFrom, List.take_succ_cons, gatherFrom, ih (index + 1)]

theorem take_taken (d : Dialect) (items : List SourceItem) :
    items.take (gather d items).taken =
      (leadingGroups items).map .ok ++ (firstError? items).toList.map .error := by
  rw [taken_gather]
  induction items with
  | nil => rfl
  | cons item rest ih =>
      cases item with
      | error e => rfl
      | ok group =>
          rw [leadingGroups_ok_cons, firstError?_ok_cons, List.length_cons, Nat.add_right_comm,
            List.take_succ_cons, ih, List.map_cons, List.cons_append]

theorem taken_of_firstError?_eq_none (d : Dialect) (h : firstError? items = none) :
    (gather d items).taken = items.length := by
  rw [taken_gather, h]
  induction items with
  | nil => rfl
  | cons item rest ih =>
      cases item with
      | error e => cases h
      | ok group =>
        rw [leadingGroups_ok_cons, List.length_cons, List.length_cons, Nat.add_right_comm, ih h]

theorem filterMap_skipped?_groupEvents (d : Dialect) (groups : List (List String)) :
    (groupEvents d groups).filterMap Event.skipped? =
      (groups.zipIdx.filter fun g => (Table.ofLines? d g.1).isNone).map fun g =>
        (g.2, g.1.headD "") := by
  rw [groupEvents, List.filterMap_map, ← List.filterMap_eq_map, List.filterMap_filter]
  congr 1
  funext g
  exact skipped?_event_ofGroup d g.2 g.1

theorem length_tables_add_length_skipped (d : Dialect) (groups : List (List String)) :
    (groups.filterMap (Table.ofLines? d)).length +
      ((groupEvents d groups).filterMap Event.skipped?).length = groups.length := by
  have hskipped : ((groupEvents d groups).filterMap Event.skipped?).length =
      groups.countP fun group => (Table.ofLines? d group).isNone := by
    rw [filterMap_skipped?_groupEvents, List.length_map, ← List.countP_eq_length_filter]
    conv_rhs => rw [← List.zipIdx_map_fst 0 groups, List.countP_map]
    rfl
  rw [hskipped, List.length_filterMap_eq_countP,
    List.length_eq_countP_add_countP fun group => (Table.ofLines? d group).isSome]
  simp only [Bool.not_eq_true, Option.isSome_eq_false_iff, Bool.decide_eq_true]

end Harvest

open Harvest

variable {d : Dialect} {produce : List Table → Job Unit} {items : List SourceItem} {desk : Desk}
  {e : Error}

def answer (tables : List Table) : Except Error Unit × Desk → Except Error (List Table) × Desk
  | (.ok (), after) => (.ok tables, after)
  | (.error e, after) => (.error e, after)

theorem fst_answer_eq_error_iff {tables : List Table} {run : Except Error Unit × Desk} :
    (answer tables run).1 = .error e ↔ run.1 = .error e := by
  obtain ⟨result, after⟩ := run
  cases result with
  | ok _ => exact iff_of_false (fun heq => nomatch heq) (fun heq => nomatch heq)
  | error e' => simp only [answer, Except.error.injEq]

theorem runAt_generate (d : Dialect) (produce : List Table → Job Unit) (items : List SourceItem)
    (desk : Desk) :
    (generate d produce items).runAt desk =
      match firstError? items with
      | some e => (.error e, desk.log (groupEvents d (leadingGroups items)))
      | none =>
          let tables := (leadingGroups items).filterMap (Table.ofLines? d)
          answer tables
            ((handOver produce tables).runAt (desk.log (groupEvents d (leadingGroups items)))) := by
  rw [generate, events_gather, DeskJob.runAt_bind_of_ok (Job.runAt_report _ desk),
    DeskJob.runAt_bind, Job.runAt_ofExcept, result, failure_gather, tables_gather]
  cases firstError? items with
  | some e => rfl
  | none =>
      dsimp only
      rw [DeskJob.runAt_bind]
      rcases (handOver produce _).runAt _ with ⟨result, after⟩
      cases result <;> rfl

theorem runAt_generate_of_firstError? (h : firstError? items = some e) :
    (generate d produce items).runAt desk =
      (.error e, desk.log (groupEvents d (leadingGroups items))) := by
  rw [runAt_generate, h]

/-- Whatever the tables are handed over to, that is called once and with all of them, and its outcome
is that of the run. -/
def HandsOver (d : Dialect) (items : List SourceItem) (tables : List Table) : Prop :=
  ∀ (produce : List Table → Job Unit) (desk : Desk),
    (generate d produce items).runAt desk =
      answer tables ((produce tables).runAt (desk.log (groupEvents d (leadingGroups items))))

theorem handsOver_iff {tables : List Table} :
    HandsOver d items tables ↔
      firstError? items = none ∧ tables ≠ [] ∧
        (leadingGroups items).filterMap (Table.ofLines? d) = tables := by
  constructor
  · intro h
    -- A producer that does nothing already tells which tables it was given.
    have hrun := h (fun _ => pure ()) {}
    rw [runAt_generate] at hrun
    cases hfailure : firstError? items with
    | some e =>
        rw [hfailure] at hrun
        cases hrun
    | none =>
        rw [hfailure] at hrun
        cases htables : (leadingGroups items).filterMap (Table.ofLines? d) with
        | nil =>
            rw [htables] at hrun
            cases hrun
        | cons t ts =>
            rw [htables] at hrun
            obtain rfl : t :: ts = tables := Except.ok.inj (Prod.mk.inj hrun).1
            exact ⟨rfl, List.cons_ne_nil t ts, rfl⟩
  · rintro ⟨hfailure, hne, rfl⟩ produce desk
    rw [runAt_generate, hfailure, ← handOver_of_ne_nil hne produce]

theorem generate_take_taken (d : Dialect) (produce : List Table → Job Unit)
    (items : List SourceItem) :
    generate d produce (items.take (gather d items).taken) = generate d produce items := by
  have hgather : gather d (items.take (gather d items).taken) = gather d items :=
    gatherFrom_take_taken d 0 items
  rw [generate, hgather, generate]

-- The answer holds for every `produce`, so that is called once where it stands in the answer, and
-- never where it does not.
theorem generate_drains_source (d : Dialect) (produce : List Table → Job Unit)
    (items : List SourceItem) (desk : Desk) :
    (match firstError? items, (leadingGroups items).filterMap (Table.ofLines? d) with
      | some e, _ =>
          (generate d produce items).runAt desk =
            (.error e, desk.log (groupEvents d (leadingGroups items)))
      | none, [] =>
          (generate d produce items).runAt desk =
            (.error .emptyTableList, desk.log (groupEvents d (leadingGroups items)))
      | none, tables =>
          (generate d produce items).runAt desk =
            answer tables
              ((produce tables).runAt (desk.log (groupEvents d (leadingGroups items))))) ∧
      (match firstError? items with
      | some e =>
          items.take (gather d items).taken = (leadingGroups items).map .ok ++ [.error e] ∧
            generate d produce (items.take (gather d items).taken) = generate d produce items
      | none => items = (leadingGroups items).map .ok) ∧
      (groupEvents d (leadingGroups items)).filterMap Event.skipped? =
        ((leadingGroups items).zipIdx.filter fun g => (Table.ofLines? d g.1).isNone).map
          (fun g => (g.2, g.1.headD "")) ∧
      ((leadingGroups items).filterMap (Table.ofLines? d)).length +
        ((groupEvents d (leadingGroups items)).filterMap Event.skipped?).length =
          (leadingGroups items).length := by
  refine ⟨?_, ?_, filterMap_skipped?_groupEvents d _, length_tables_add_length_skipped d _⟩
  · rw [runAt_generate]
    cases firstError? items with
    | some e => rfl
    | none =>
        cases htables : (leadingGroups items).filterMap (Table.ofLines? d) with
        | nil => rfl
        | cons t ts => rfl
  · have htake := take_taken d items
    cases h : firstError? items with
    | some e => exact ⟨by rw [htake, h]; rfl, generate_take_taken d produce items⟩
    | none =>
        rw [taken_of_firstError?_eq_none d h, List.take_length, h] at htake
        simpa using htake

end SchemaDiagram

import Mathlib.Data.List.Basic
import SchemaDiagram.Proofs.Assembly.Clause
import SchemaDiagram.Proofs.Ddl.Concatenation

namespace SchemaDiagram

open Text Ddl

namespace Ddl

structure Silent (line : String) : Prop where
  column : mysql.column? line = none
  primaryKey : mysql.primaryKey? line = none
  uniqueKey : mysql.uniqueKey? line = none
  foreignKey : mysql.foreignKey? line = none

theorem silent_of_prefix {o : List Char} {line : String} (hline : o <+: line.toList)
    (hstop : Stops isBlank line.toList) (hk : ∀ k : LineKind, ¬ k.opening <+: o)
    (hk' : ∀ k : LineKind, ¬ o <+: k.opening) : Silent line := by
  have hopens (k : LineKind) : ¬ k.Opens line.toList :=
    LineKind.not_opens_of_prefix hline hstop (hk k) (hk' k)
  exact ⟨mysql_column?_eq_none (hopens .column), mysql_primaryKey?_eq_none (hopens .primaryKey),
    mysql_uniqueKey?_eq_none (hopens .uniqueKey), mysql_foreignKey?_eq_none (hopens .foreignKey)⟩

end Ddl

namespace Table

def clauses (t : Table) : List Clause :=
  t.columns.map .column ++ t.primaryKeys.map .primaryKey ++ t.uniqueKeys.map .uniqueKey
    ++ t.foreignKeys.map .foreignKey

def headerLine (t : Table) : String :=
  String.ofList ("CREATE TABLE ".toList ++ (ticked t.name.toList ++ " (".toList))

def closingLine (options : String) : String := String.ofList (")".toList ++ options.toList)

def definition (options : String) (t : Table) : List String :=
  t.headerLine :: (Clause.lines t.clauses ++ [closingLine options])

variable {t : Table}

theorem WellFormed.clauses (h : t.WellFormed) : ∀ x ∈ t.clauses, x.WellFormed := by
  intro x hx
  simp only [Table.clauses, List.mem_append, List.mem_map] at hx
  rcases hx with ((⟨c, hc, rfl⟩ | ⟨k, hk, rfl⟩) | ⟨k, hk, rfl⟩) | ⟨k, hk, rfl⟩
  · exact h.columns c hc
  · exact h.primaryKeys k hk
  · exact h.uniqueKeys k hk
  · exact h.foreignKeys k hk

theorem toList_headerLine (t : Table) :
    t.headerLine.toList = "CREATE TABLE ".toList ++ (ticked t.name.toList ++ " (".toList) := by
  unfold headerLine
  exact String.toList_ofList

theorem toList_closingLine (options : String) :
    (closingLine options).toList = ")".toList ++ options.toList := by
  rw [closingLine, String.toList_ofList]

theorem stops_headerLine (t : Table) : Stops isBlank t.headerLine.toList := by
  rw [toList_headerLine]
  exact stops_toList_append (c := 'C') (by decide) (by decide) _

theorem stops_closingLine (options : String) : Stops isBlank (closingLine options).toList := by
  rw [toList_closingLine]
  exact stops_toList_append (c := ')') (by decide) (by decide) _

theorem silent_headerLine (t : Table) : Silent t.headerLine := by
  apply silent_of_prefix (o := "CREATE TABLE ".toList) ?_ (stops_headerLine t)
  · intro k
    cases k <;> decide
  · intro k
    cases k <;> decide
  · rw [toList_headerLine]
    exact List.prefix_append _ _

theorem silent_closingLine (options : String) : Silent (closingLine options) := by
  apply silent_of_prefix (o := ")".toList) ?_ (stops_closingLine options)
  · intro k
    cases k <;> decide
  · intro k
    cases k <;> decide
  · rw [toList_closingLine]
    exact List.prefix_append _ _

theorem header?_headerLine (h : t.WellFormed) : mysql.header? t.headerLine = some t.name := by
  have hheader : IsHeader t.headerLine.toList t.name.toList := by
    rw [toList_headerLine]
    exact ⟨false, [], h.name, rfl, by rw [List.append_nil]; rfl⟩
  rw [mysql_header?, headerName_of_isHeader hheader, Option.map_some, String.ofList_toList]

theorem filterMap_definition {α : Type} {read : String → Option α} {part : Clause → Option α}
    {options : String} (hheader : read t.headerLine = none)
    (hclosing : read (closingLine options) = none)
    (hclauses : ∀ x ∈ t.clauses, ∀ more, read (x.line more) = part x) :
    (t.definition options).filterMap read = t.clauses.filterMap part := by
  rw [definition, List.filterMap_cons_none hheader, List.filterMap_append,
    Clause.filterMap_lines hclauses, List.filterMap_cons_none hclosing, List.filterMap_nil,
    List.append_nil]

theorem filterMap_clauses {α : Type} (part : Clause → Option α) (t : Table) :
    t.clauses.filterMap part = t.columns.filterMap (fun c => part (.column c))
      ++ t.primaryKeys.filterMap (fun k => part (.primaryKey k))
      ++ t.uniqueKeys.filterMap (fun k => part (.uniqueKey k))
      ++ t.foreignKeys.filterMap (fun k => part (.foreignKey k)) := by
  simp only [clauses, List.filterMap_append, List.filterMap_map, Function.comp_def]

theorem filterMap_column?_clauses (t : Table) :
    t.clauses.filterMap Clause.column? = t.columns.map Column.unmarked := by
  simp [filterMap_clauses, Clause.column?]

section Parts

variable (h : t.WellFormed) (options : String)

include h

theorem filterMap_column?_definition :
    (t.definition options).filterMap mysql.column? = t.columns.map Column.unmarked := by
  rw [filterMap_definition (silent_headerLine t).column (silent_closingLine options).column
    fun x hx => Clause.column?_line (h.clauses x hx), filterMap_column?_clauses]

theorem filterMap_primaryKey?_definition :
    (t.definition options).filterMap mysql.primaryKey? = t.primaryKeys := by
  rw [filterMap_definition (silent_headerLine t).primaryKey
    (silent_closingLine options).primaryKey fun x hx => Clause.primaryKey?_line (h.clauses x hx)]
  simp [filterMap_clauses, Clause.primaryKey?]

theorem filterMap_uniqueKey?_definition :
    (t.definition options).filterMap mysql.uniqueKey? = t.uniqueKeys := by
  rw [filterMap_definition (silent_headerLine t).uniqueKey
    (silent_closingLine options).uniqueKey fun x hx => Clause.uniqueKey?_line (h.clauses x hx)]
  simp [filterMap_clauses, Clause.uniqueKey?]

theorem filterMap_foreignKey?_definition :
    (t.definition options).filterMap mysql.foreignKey? = t.foreignKeys := by
  rw [filterMap_definition (silent_headerLine t).foreignKey
    (silent_closingLine options).foreignKey fun x hx => Clause.foreignKey?_line (h.clauses x hx)]
  simp [filterMap_clauses, Clause.foreignKey?]

theorem mark_unmarked {c : Column} (hc : c ∈ t.columns) : t.mark c.unmarked = c := by
  have hforeign : t.foreignKeyColumns.contains c.name = c.foreign := by
    rw [Bool.eq_iff_iff, List.contains_iff_mem]
    exact (h.foreign c hc).symm
  have hprimary : t.primaryKeyColumns.contains c.name = c.primary := by
    rw [Bool.eq_iff_iff, List.contains_iff_mem]
    exact (h.primary c hc).symm
  have hname : c.unmarked.name = c.name := rfl
  rw [mark, hname, hforeign, hprimary]
  rfl

theorem map_mark_map_unmarked : (t.columns.map Column.unmarked).map t.mark = t.columns := by
  rw [List.map_map]
  exact (List.map_congr_left fun c hc => mark_unmarked h hc).trans (List.map_id' t.columns)

theorem ofLines?_definition : ofLines? mysql (t.definition options) = some t := by
  rw [ofLines?_eq_some_iff]
  refine ⟨header?_headerLine h, ?_, (filterMap_foreignKey?_definition h options).symm,
    (filterMap_primaryKey?_definition h options).symm,
    (filterMap_uniqueKey?_definition h options).symm⟩
  rw [filterMap_column?_definition h options, map_mark_map_unmarked h]

end Parts

theorem startsStatement_headerLine (t : Table) : startsStatement t.headerLine = true := by
  have hwords : "CREATE TABLE ".toList =
      "CREATE".toList ++ (" ".toList ++ ("TABLE".toList ++ [' '])) := by decide
  apply startsStatement_of_words (r := ' ' :: (ticked t.name.toList ++ " (".toList))
  · rfl
  · rw [toList_headerLine, hwords]
    simp only [List.append_assoc, List.cons_append, List.nil_append]

theorem startsStatement_closingLine (options : String) :
    startsStatement (closingLine options) = false := by
  apply startsStatement_eq_false
  rw [skipBlanks_of_stops (stops_closingLine options), toList_closingLine]
  exact afterAnyCase_append_eq_none (by decide) (by decide) options.toList

theorem closesStatement_closingLine (options : String) :
    closesStatement (closingLine options) = true := by
  rw [closesStatement, toList_closingLine]
  rfl

theorem continues_of_mem_lines {xs : List Clause} : ∀ l ∈ Clause.lines xs, Continues l := by
  induction xs with
  | nil => exact fun _ hl => nomatch hl
  | cons x xs ih =>
      exact List.forall_mem_cons.2 ⟨continues_of_opens (Clause.opens_line x _), ih⟩

theorem isStart_headerLine (t : Table) : IsStart t.headerLine :=
  startsStatement_iff.1 (startsStatement_headerLine t)

theorem not_isStart_of_mem_body (t : Table) (options : String) :
    ∀ l ∈ Clause.lines t.clauses ++ [closingLine options], ¬ IsStart l := by
  refine List.forall_mem_append.2 ⟨?_, List.forall_mem_singleton.2 ?_⟩
  · intro l hl
    exact startsStatement_eq_false_iff.1 (continues_of_mem_lines l hl).1
  · exact startsStatement_eq_false_iff.1 (startsStatement_closingLine options)

theorem isStatement_definition (t : Table) (options : String) :
    IsStatement (t.definition options) := by
  refine ⟨t.headerLine, _, rfl, isStart_headerLine t, not_isStart_of_mem_body t options, ?_⟩
  rw [definition, ← List.cons_append, List.dropLast_concat]
  refine List.forall_mem_cons.2 ⟨?_, ?_⟩
  · have hstart := startsStatement_headerLine t
    exact closesStatement_eq_false_iff.1 (closesStatement_of_startsStatement hstart)
  · intro l hl
    exact closesStatement_eq_false_iff.1 (continues_of_mem_lines l hl).2

theorem isSettled_definition (t : Table) (options : String) :
    IsSettled (t.definition options) := by
  refine .inr ⟨[], t.headerLine, _, rfl, isStart_headerLine t, not_isStart_of_mem_body t options,
    closingLine options, ?_, closesStatement_iff.1 (closesStatement_closingLine options)⟩
  exact List.mem_append_right _ List.mem_cons_self

theorem statements_flatMap_definition (options : String) (ts : List Table) :
    statements (ts.flatMap (definition options)) = ts.map (definition options) := by
  rw [List.flatMap_def]
  apply statements_flatten
  intro group hgroup
  obtain ⟨t, _, rfl⟩ := List.mem_map.1 hgroup
  exact isStatement_definition t options

theorem statements_definition_append (t : Table) (options : String) (rest : List String) :
    statements (t.definition options ++ rest) = t.definition options :: statements rest := by
  have hone : statements (t.definition options) = [t.definition options] := by
    simpa using statements_flatMap_definition options [t]
  rw [statements_append_eq_iff.2 (.inr (isSettled_definition t options)), hone,
    List.singleton_append]

end Table

end SchemaDiagram

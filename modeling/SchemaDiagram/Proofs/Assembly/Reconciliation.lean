import Mathlib.Data.Option.Basic
import SchemaDiagram.Assembly

namespace SchemaDiagram

open Ddl

namespace Table

variable {d : Dialect} {lines : List String} {t : Table}

def mark (t : Table) (c : Column) : Column :=
  (c.markForeign (t.foreignKeyColumns.contains c.name)).markPrimary
    (t.primaryKeyColumns.contains c.name)

theorem foreign_mark (t : Table) (c : Column) :
    (t.mark c).foreign = true ↔ c.name ∈ t.foreignKeyColumns :=
  List.contains_iff_mem

theorem primary_mark (t : Table) (c : Column) :
    (t.mark c).primary = true ↔ c.name ∈ t.primaryKeyColumns :=
  List.contains_iff_mem

theorem columns_withPrimaryKeys_withForeignKeys (d : Dialect) (lines : List String) (t : Table) :
    ((t.withForeignKeys d lines).withPrimaryKeys d lines).columns =
      t.columns.map ((t.withForeignKeys d lines).withPrimaryKeys d lines).mark := by
  simp only [withPrimaryKeys, withForeignKeys, List.map_map]
  rfl

theorem ofLines?_eq_some_iff :
    ofLines? d lines = some t ↔
      lines.head?.bind d.header? = some t.name ∧
        t.columns = (lines.filterMap d.column?).map t.mark ∧
        t.foreignKeys = lines.filterMap d.foreignKey? ∧
        t.primaryKeys = lines.filterMap d.primaryKey? ∧
        t.uniqueKeys = lines.filterMap d.uniqueKey? := by
  cases lines with
  | nil => exact iff_of_false (fun h => nomatch h) (fun h => nomatch h.1)
  | cons first rest =>
      rw [ofLines?, Option.map_eq_some_iff, List.head?_cons, Option.bind_some]
      constructor
      · rintro ⟨name, hname, rfl⟩
        exact ⟨hname, columns_withPrimaryKeys_withForeignKeys d (first :: rest) _, rfl, rfl, rfl⟩
      · obtain ⟨name, columns, foreignKeys, primaryKeys, uniqueKeys⟩ := t
        rintro ⟨hname, hcolumns, rfl, rfl, rfl⟩
        refine ⟨name, hname, ?_⟩
        dsimp only at hcolumns
        rw [hcolumns]
        simp only [withPrimaryKeys, withForeignKeys, List.map_map]
        rfl

theorem isSome_ofLines? :
    (ofLines? d lines).isSome = true ↔
      ∃ first rest name, lines = first :: rest ∧ d.header? first = some name := by
  cases lines with
  | nil => exact iff_of_false (fun h => nomatch h) (fun ⟨_, _, _, h, _⟩ => nomatch h)
  | cons first rest =>
      rw [ofLines?, Option.isSome_map, Option.isSome_iff_exists]
      constructor
      · rintro ⟨name, hname⟩
        exact ⟨first, rest, name, rfl, hname⟩
      · rintro ⟨_, _, name, heq, hname⟩
        obtain ⟨rfl, rfl⟩ := List.cons.inj heq
        exact ⟨name, hname⟩

theorem map_unmarked_columns (h : ofLines? d lines = some t) :
    t.columns.map Column.unmarked = (lines.filterMap d.column?).map Column.unmarked := by
  rw [(ofLines?_eq_some_iff.1 h).2.1, List.map_map]
  rfl

theorem flags_of_mem_columns (h : ofLines? d lines = some t) :
    ∀ c ∈ t.columns, (c.foreign = true ↔ c.name ∈ t.foreignKeyColumns) ∧
      (c.primary = true ↔ c.name ∈ t.primaryKeyColumns) := by
  intro c hc
  rw [(ofLines?_eq_some_iff.1 h).2.1] at hc
  obtain ⟨c, _, rfl⟩ := List.mem_map.1 hc
  exact ⟨foreign_mark t c, primary_mark t c⟩

end Table

theorem Ddl.unmarked_of_column? {line : List Char} {c : Column} (h : column? line = some c) :
    c.unmarked = c := by
  simp only [column?, Option.bind_eq_bind, Option.bind_eq_some_iff] at h
  obtain ⟨_, _, _, _, _, _, _, _, heq⟩ := h
  obtain rfl := Option.some.inj heq
  rfl

namespace Table

theorem map_unmarked_filterMap_column? (lines : List String) :
    (lines.filterMap mysql.column?).map Column.unmarked = lines.filterMap mysql.column? := by
  rw [List.map_filterMap]
  congr 1
  funext line
  cases h : mysql.column? line with
  | none => rfl
  | some c => rw [Option.map_some, unmarked_of_column? h]

theorem ofLines?_reconciles (lines : List String) :
    (∀ d, (ofLines? d lines).isSome = true ↔
      ∃ first rest name, lines = first :: rest ∧ d.header? first = some name) ∧
    (∀ d t, ofLines? d lines = some t →
      lines.head?.bind d.header? = some t.name ∧
      t.columns.map Column.unmarked = (lines.filterMap d.column?).map Column.unmarked ∧
      t.foreignKeys = lines.filterMap d.foreignKey? ∧
      t.primaryKeys = lines.filterMap d.primaryKey? ∧
      t.uniqueKeys = lines.filterMap d.uniqueKey? ∧
      ∀ c ∈ t.columns, (c.foreign = true ↔ c.name ∈ t.foreignKeyColumns) ∧
        (c.primary = true ↔ c.name ∈ t.primaryKeyColumns)) ∧
    (∀ t, ofLines? mysql lines = some t →
      t.columns.map Column.unmarked = lines.filterMap mysql.column?) := by
  refine ⟨fun d => isSome_ofLines?, ?_, ?_⟩
  · intro d t h
    obtain ⟨hname, _, hforeign, hprimary, hunique⟩ := ofLines?_eq_some_iff.1 h
    exact ⟨hname, map_unmarked_columns h, hforeign, hprimary, hunique, flags_of_mem_columns h⟩
  · intro t h
    rw [map_unmarked_columns h, map_unmarked_filterMap_column?]

def visitLines : List String := [
  "CREATE TABLE \x60visits\x60 (",
  "  \x60day\x60 date NOT NULL,",
  "  \x60guest\x60 int(11),",
  "  \x60day\x60 datetime,",
  "  PRIMARY KEY (\x60day\x60,\x60room\x60),",
  "  UNIQUE KEY \x60guest\x60 (\x60guest\x60),",
  "  CONSTRAINT \x60fk\x60 FOREIGN KEY (\x60guest\x60) REFERENCES \x60guests\x60 (\x60id\x60)",
  ")"]

def visits : Table where
  name := "visits"
  columns := [
    { name := "day", type := some "date", notNull := true, primary := true },
    { name := "guest", type := some "int", scale := some "11", foreign := true },
    { name := "day", type := some "datetime", primary := true }]
  foreignKeys := [{
    column := some "guest", referencedTable := some "guests", referencedColumn := some "id" }]
  primaryKeys := [{ columns := ["day", "room"] }]
  uniqueKeys := [{ name := "guest", columns := ["guest"] }]

theorem visits_reconciles :
    ofLines? mysql visitLines = some visits ∧
      (∃ first rest name, visitLines = first :: rest ∧ mysql.header? first = some name) ∧
      visits.columns.map Column.unmarked = visitLines.filterMap mysql.column? ∧
      ∀ c ∈ visits.columns, (c.foreign = true ↔ c.name ∈ visits.foreignKeyColumns) ∧
        (c.primary = true ↔ c.name ∈ visits.primaryKeyColumns) := by
  have hread : ofLines? mysql visitLines = some visits := by decide +kernel
  obtain ⟨hsome, hparts, hcolumns⟩ := ofLines?_reconciles visitLines
  obtain ⟨_, _, _, _, _, hflags⟩ := hparts mysql visits hread
  exact ⟨hread, (hsome mysql).1 (Option.isSome_iff_exists.2 ⟨visits, hread⟩),
    hcolumns visits hread, hflags⟩

end Table

end SchemaDiagram

import Mathlib.Data.List.Forall2
import SchemaDiagram.Assembly

namespace SchemaDiagram

open Ddl

def MarkedFor (names : List String) (mark : Column → Bool → Column) (flag : Column → Bool) :
    List Column → List Column → Prop :=
  List.Forall₂ fun c c' => c' = mark c (flag c') ∧ (flag c' = true ↔ c.name ∈ names)

theorem markedFor_map {mark : Column → Bool → Column} {flag : Column → Bool}
    (hflag : ∀ c marked, flag (mark c marked) = marked) (names : List String)
    (columns : List Column) :
    MarkedFor names mark flag columns
      (columns.map fun c => mark c (names.contains c.name)) := by
  rw [MarkedFor, List.forall₂_map_right_iff, List.forall₂_same]
  intro c _
  rw [hflag]
  exact ⟨rfl, List.contains_iff_mem⟩

namespace Table

structure TakesForeignKeys (keys : List ForeignKey) (before after : Table) : Prop where
  rest : after = { before with foreignKeys := keys, columns := after.columns }
  columns : MarkedFor after.foreignKeyColumns Column.markForeign Column.foreign
    before.columns after.columns

structure TakesPrimaryKeys (keys : List PrimaryKey) (before after : Table) : Prop where
  rest : after = { before with primaryKeys := keys, columns := after.columns }
  columns : MarkedFor after.primaryKeyColumns Column.markPrimary Column.primary
    before.columns after.columns

theorem takesForeignKeys_withForeignKeys (d : Dialect) (lines : List String) (t : Table) :
    TakesForeignKeys (lines.filterMap d.foreignKey?) t (t.withForeignKeys d lines) where
  rest := rfl
  columns := markedFor_map (fun _ _ => rfl) _ t.columns

theorem takesPrimaryKeys_withPrimaryKeys (d : Dialect) (lines : List String) (t : Table) :
    TakesPrimaryKeys (lines.filterMap d.primaryKey?) t (t.withPrimaryKeys d lines) where
  rest := rfl
  columns := markedFor_map (fun _ _ => rfl) _ t.columns

variable (d d' : Dialect) (lines lines' : List String) (t : Table)

theorem withPrimaryKeys_withForeignKeys :
    (t.withForeignKeys d lines).withPrimaryKeys d' lines' =
      (t.withPrimaryKeys d' lines').withForeignKeys d lines := by
  simp only [withForeignKeys, withPrimaryKeys, List.map_map, mk.injEq, true_and, and_true]
  apply List.map_congr_left
  intro c _
  exact Column.markPrimary_markForeign c _ _

theorem withForeignKeys_withForeignKeys :
    (t.withForeignKeys d lines).withForeignKeys d' lines' = t.withForeignKeys d' lines' := by
  simp only [withForeignKeys, List.map_map, mk.injEq, true_and, and_true]
  apply List.map_congr_left
  intro c _
  exact Column.markForeign_markForeign c _ _

theorem withPrimaryKeys_withPrimaryKeys :
    (t.withPrimaryKeys d lines).withPrimaryKeys d' lines' = t.withPrimaryKeys d' lines' := by
  simp only [withPrimaryKeys, List.map_map, mk.injEq, true_and, and_true]
  apply List.map_congr_left
  intro c _
  exact Column.markPrimary_markPrimary c _ _

theorem key_passes_are_independent :
    (t.withForeignKeys d lines).withPrimaryKeys d lines =
        (t.withPrimaryKeys d lines).withForeignKeys d lines ∧
      (t.withForeignKeys d lines).withForeignKeys d lines = t.withForeignKeys d lines ∧
      (t.withPrimaryKeys d lines).withPrimaryKeys d lines = t.withPrimaryKeys d lines ∧
      TakesForeignKeys (lines.filterMap d.foreignKey?) t (t.withForeignKeys d lines) ∧
      TakesPrimaryKeys (lines.filterMap d.primaryKey?) t (t.withPrimaryKeys d lines) :=
  ⟨withPrimaryKeys_withForeignKeys d d lines lines t,
    withForeignKeys_withForeignKeys d d lines lines t,
    withPrimaryKeys_withPrimaryKeys d d lines lines t,
    takesForeignKeys_withForeignKeys d lines t, takesPrimaryKeys_withPrimaryKeys d lines t⟩

end Table

end SchemaDiagram

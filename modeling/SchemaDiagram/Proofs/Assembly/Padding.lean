import SchemaDiagram.Assembly
import SchemaDiagram.Proofs.Ddl.Padding
import SchemaDiagram.Proofs.Ddl.Segmentation

namespace SchemaDiagram

namespace Ddl

variable {α : Type}

structure Dialect.Alike (d : Dialect) (l m : String) : Prop where
  table : d.table? l = d.table? m
  column : d.column? l = d.column? m
  primaryKey : d.primaryKey? l = d.primaryKey? m
  foreignKey : d.foreignKey? l = d.foreignKey? m
  uniqueKey : d.uniqueKey? l = d.uniqueKey? m

abbrev Padding := { s : String // IsPadding s }

structure PaddedLine where
  before : Padding
  line : String
  behind : Padding

def PaddedLine.text (l : PaddedLine) : String := l.before.val ++ l.line ++ l.behind.val

theorem IgnoresPadding.text {read : String → α} (h : IgnoresPadding read) (l : PaddedLine) :
    read l.text = read l.line := by
  rw [PaddedLine.text, h.append l.behind.property, h.prepend l.before.property]

theorem PaddedLine.alike (l : PaddedLine) : mysql.Alike l.text l.line where
  table := ignoresPadding_table?.text l
  column := ignoresPadding_column?.text l
  primaryKey := ignoresPadding_primaryKey?.text l
  foreignKey := ignoresPadding_foreignKey?.text l
  uniqueKey := ignoresPadding_uniqueKey?.text l

def statementsBy (line : α → String) (rows : List α) : List (List α) :=
  ((rows.map line).findIdxs (IsStart ·)).map fun i =>
    rows.extract i (lastIndex (rows.map line) i + 1)

theorem statements_map (line : α → String) (rows : List α) :
    statements (rows.map line) = (statementsBy line rows).map (List.map line) := by
  rw [statements_eq_map_extract, statementsBy, List.map_map]
  apply List.map_congr_left
  intro i _
  simp only [Function.comp_apply, List.extract_eq_take_drop, List.map_take, List.map_drop]

theorem firstAfter_map_congr {p : String → Prop} [DecidablePred p] {f g : α → String}
    (h : ∀ a, p (f a) ↔ p (g a)) (rows : List α) (i : Nat) :
    firstAfter p (rows.map f) i = firstAfter p (rows.map g) i := by
  simp only [firstAfter, ← List.map_drop, List.findIdx_map, Function.comp_def, h]

theorem statementsBy_congr {f g : α → String} (hstart : ∀ a, IsStart (f a) ↔ IsStart (g a))
    (hclose : ∀ a, IsCloser (f a) ↔ IsCloser (g a)) (rows : List α) :
    statementsBy f rows = statementsBy g rows := by
  simp only [statementsBy, lastIndex, firstAfter_map_congr hstart, firstAfter_map_congr hclose,
    List.findIdxs_map, Function.comp_def, hstart]

theorem PaddedLine.isStart_text_iff (l : PaddedLine) : IsStart l.text ↔ IsStart l.line := by
  rw [← startsStatement_iff, ← startsStatement_iff, ignoresPadding_startsStatement.text l]

theorem PaddedLine.isCloser_text_iff (l : PaddedLine) : IsCloser l.text ↔ IsCloser l.line := by
  rw [← closesStatement_iff, ← closesStatement_iff, ignoresPadding_closesStatement.text l]

end Ddl

open Ddl

namespace Table

variable {α : Type} {d : Dialect}

theorem ofLines?_cons (d : Dialect) (first : String) (rest : List String) :
    ofLines? d (first :: rest) = (d.table? first).map fun t =>
      let lines := first :: rest
      let declared := { t with columns := lines.filterMap d.column? }
      { (declared.withForeignKeys d lines).withPrimaryKeys d lines with
        uniqueKeys := lines.filterMap d.uniqueKey? } := by
  rw [ofLines?, Dialect.table?, Option.map_map]
  rfl

theorem ofLines?_map_congr {f g : α → String} (h : ∀ a, d.Alike (f a) (g a)) (rows : List α) :
    ofLines? d (rows.map f) = ofLines? d (rows.map g) := by
  have hcolumn : d.column? ∘ f = d.column? ∘ g := funext fun a => (h a).column
  have hprimary : d.primaryKey? ∘ f = d.primaryKey? ∘ g := funext fun a => (h a).primaryKey
  have hforeign : d.foreignKey? ∘ f = d.foreignKey? ∘ g := funext fun a => (h a).foreignKey
  have hunique : d.uniqueKey? ∘ f = d.uniqueKey? ∘ g := funext fun a => (h a).uniqueKey
  cases rows with
  | nil => rfl
  | cons first rest =>
      rw [List.map_cons, List.map_cons, ofLines?_cons, ofLines?_cons, (h first).table,
        ← List.map_cons, ← List.map_cons]
      simp only [withForeignKeys, withPrimaryKeys, List.filterMap_map, hcolumn, hprimary, hforeign,
        hunique]

end Table

theorem padding_is_ignored :
    (∀ l : PaddedLine, mysql.Alike l.text l.line) ∧
      (∀ rows : List PaddedLine,
        statements (rows.map PaddedLine.line) =
            (statementsBy PaddedLine.line rows).map (List.map PaddedLine.line) ∧
          statements (rows.map PaddedLine.text) =
            (statementsBy PaddedLine.line rows).map (List.map PaddedLine.text)) ∧
      ∀ rows : List PaddedLine, Table.ofLines? mysql (rows.map PaddedLine.text) =
        Table.ofLines? mysql (rows.map PaddedLine.line) := by
  refine ⟨PaddedLine.alike, ?_, Table.ofLines?_map_congr PaddedLine.alike⟩
  intro rows
  refine ⟨statements_map PaddedLine.line rows, ?_⟩
  rw [← statementsBy_congr PaddedLine.isStart_text_iff PaddedLine.isCloser_text_iff]
  exact statements_map PaddedLine.text rows

end SchemaDiagram

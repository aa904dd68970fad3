import Mathlib.Data.List.Forall2
import SchemaDiagram.Proofs.Diagram.Accounting
import SchemaDiagram.Proofs.Diagram.FieldLine

namespace SchemaDiagram

open Text Ddl

theorem forall₂_filter_filterMap {α β : Type} (f : α → Option β) (xs : List α) :
    List.Forall₂ (fun x y => f x = some y) (xs.filter fun x => (f x).isSome) (xs.filterMap f) := by
  induction xs with
  | nil => exact .nil
  | cons x xs ih =>
      cases h : f x with
      | none => simpa [h] using ih
      | some y => simpa [h] using ih

theorem exists_mem_filterMap_iff {α β : Type} {f : α → Option β} {p : β → Prop} {xs : List α} :
    (∃ y ∈ xs.filterMap f, p y) ↔ ∃ x ∈ xs, ∃ y, f x = some y ∧ p y := by
  constructor
  · rintro ⟨y, hy, hp⟩
    obtain ⟨x, hx, hread⟩ := List.mem_filterMap.1 hy
    exact ⟨x, hx, y, hread, hp⟩
  · rintro ⟨x, hx, y, hread, hp⟩
    exact ⟨y, List.mem_filterMap.2 ⟨x, hx, hread⟩, hp⟩

def StartsForeignKey (group : List String) (column : String) : Prop :=
  ∃ line ∈ group, ∃ k, mysql.foreignKey? line = some k ∧ k.column = some column

def InPrimaryKey (group : List String) (column : String) : Prop :=
  ∃ line ∈ group, ∃ k, mysql.primaryKey? line = some k ∧ column ∈ k.columns

structure Column.IsShown (c : Column) (group : List String) (field : String) : Prop where
  opening : ("\t\x7bfield\x7d <b>" ++ c.name ++ "</b>" ++ c.typeText).toList <+: field.toList
  foreign : Carries "<<FK>>" field ↔ StartsForeignKey group c.name
  primary : Carries "<<PK>>" field ↔ InPrimaryKey group c.name

theorem ForeignKey.WellFormed.exists_names {k : ForeignKey} (h : k.WellFormed) :
    ∃ column referenced referencedColumn,
      k = ⟨some column, some referenced, some referencedColumn⟩ := by
  obtain ⟨_, _, _⟩ := k
  obtain ⟨⟨c, rfl, _⟩, ⟨r, rfl, _⟩, ⟨s, rfl, _⟩⟩ := h
  exact ⟨c, r, s, rfl⟩

def classLine (name : String) : String := "class " ++ name ++ " << (T,#FFAAAA) >> \x7b"

def linkLine (table column referenced referencedColumn : String) : String :=
  table ++ "::" ++ column ++ " -- " ++ referenced ++ "::" ++ referencedColumn

namespace Table

variable {group : List String} {t : Table} {tables : List Table} {showOrphans : Bool}

def links (showOrphans : Bool) (tables : List Table) (t : Table) : List String :=
  ((t.foreignKeys.map fun k => (⟨t.name, k⟩ : Reference)).filter
    (isDrawn showOrphans tables)).map Reference.line

theorem map_line_drawn (showOrphans : Bool) (tables : List Table) :
    (drawn showOrphans tables).map Reference.line = tables.flatMap (links showOrphans tables) := by
  rw [drawn, references, List.filter_flatMap, List.map_flatMap]
  rfl

theorem mem_links_iff {link : String} :
    link ∈ t.links showOrphans tables ↔
      ∃ k ∈ t.foreignKeys, isDrawn showOrphans tables ⟨t.name, k⟩ = true ∧
        Reference.line ⟨t.name, k⟩ = link := by
  simp only [links, List.mem_map, List.mem_filter, and_assoc, exists_exists_and_eq_and]

/-- The table is drawn as the lines of its group say, in a diagram of all these tables. -/
structure IsDepicted (showOrphans : Bool) (tables : List Table) (group : List String)
    (t : Table) : Prop where
  assembled : ofLines? mysql group = some t
  opening : group.head?.bind mysql.header? = some t.name ∧
    t.block.head? = some (classLine t.name)
  fields : List.Forall₂ (fun line field => ∃ c, mysql.column? line = some c ∧ c.IsShown group field)
    (group.filter fun line => (mysql.column? line).isSome) (t.block.filter isFieldLine)
  links : ∀ link ∈ t.links showOrphans tables, ∃ line ∈ group, ∃ column referenced referencedColumn,
    mysql.foreignKey? line = some ⟨some column, some referenced, some referencedColumn⟩ ∧
      link = linkLine t.name column referenced referencedColumn ∧
      (∀ field ∈ t.block, IsFieldOf column field → Carries "<<FK>>" field) ∧
      (showOrphans = false → classLine referenced ∈ tables.flatMap block)
  drawn : ∀ line ∈ group, ∀ k, mysql.foreignKey? line = some k →
    ∃ column referenced referencedColumn,
      k = ⟨some column, some referenced, some referencedColumn⟩ ∧
        (classLine referenced ∈ tables.flatMap block →
          linkLine t.name column referenced referencedColumn ∈ t.links showOrphans tables)

theorem classLine_inj {n m : String} (h : classLine n = classLine m) : n = m := by
  have htext := congrArg String.toList h
  simp only [classLine, String.toList_append, List.append_assoc, List.append_cancel_left_eq,
    List.append_cancel_right_eq] at htext
  exact String.toList_inj.1 htext

theorem head?_classLine (name : String) : (classLine name).toList.head? = some 'c' := by
  unfold classLine
  simp only [String.toList_append]
  rfl

theorem classLine_mem_block_iff {name : String} : classLine name ∈ t.block ↔ t.name = name := by
  have hhead := head?_classLine name
  constructor
  · intro hmem
    rcases List.mem_append.1 hmem with hmem | hmem
    · rcases List.mem_cons.1 hmem with heq | hmem
      · exact (classLine_inj heq).symm
      · rcases mem_blockBody hmem with heq | ⟨c, _, heq⟩
        · rw [heq] at hhead
          cases hhead
        · rw [← heq, c.head?_fieldLine] at hhead
          cases hhead
    · rw [List.mem_singleton.1 hmem] at hhead
      cases hhead
  · rintro rfl
    exact List.mem_cons_self

theorem classLine_mem_blocks_iff {name : String} :
    classLine name ∈ tables.flatMap block ↔ ∃ u ∈ tables, u.name = name := by
  simp only [List.mem_flatMap, classLine_mem_block_iff]

theorem isDrawn_iff_classLine {k : ForeignKey} {table name : String}
    (hname : k.referencedTable = some name) :
    isDrawn showOrphans tables ⟨table, k⟩ = true ↔
      showOrphans = true ∨ classLine name ∈ tables.flatMap block := by
  rw [isDrawn_iff, classLine_mem_blocks_iff, hname]
  simp only [Option.some.injEq, eq_comm]

theorem filter_isFieldLine_block (t : Table) :
    t.block.filter isFieldLine = t.columns.map Column.fieldLine := by
  have hfields : (t.columns.map Column.fieldLine).filter isFieldLine =
      t.columns.map Column.fieldLine := by
    apply List.filter_eq_self.2
    intro l hl
    obtain ⟨c, _, rfl⟩ := List.mem_map.1 hl
    exact isFieldLine_of_isFieldOf c.isFieldOf_fieldLine
  have hbody : t.blockBody.filter isFieldLine = t.columns.map Column.fieldLine := by
    rw [← hfields, blockBody]
    cases t.columns <;> rfl
  have hopening : isFieldLine t.blockOpening = false := by
    unfold isFieldLine
    rw [toList_blockOpening]
    rfl
  rw [block, List.filter_append, List.filter_cons_of_neg (Bool.eq_false_iff.1 hopening), hbody]
  exact List.append_nil _

theorem mem_foreignKeyColumns_iff (h : ofLines? mysql group = some t) {column : String} :
    column ∈ t.foreignKeyColumns ↔ StartsForeignKey group column := by
  rw [foreignKeyColumns, (ofLines?_eq_some_iff.1 h).2.2.1, List.mem_filterMap]
  exact exists_mem_filterMap_iff

theorem mem_primaryKeyColumns_iff (h : ofLines? mysql group = some t) {column : String} :
    column ∈ t.primaryKeyColumns ↔ InPrimaryKey group column := by
  rw [primaryKeyColumns, (ofLines?_eq_some_iff.1 h).2.2.2.1, List.mem_flatMap]
  exact exists_mem_filterMap_iff

theorem isShown_mark (h : ofLines? mysql group = some t) {line : String} {c : Column}
    (hread : mysql.column? line = some c) : c.IsShown group (t.mark c).fieldLine := by
  have hformed : (t.mark c).WellFormed := (column?_sound hread).1.mark t
  constructor
  case opening => exact (t.mark c).prefix_fieldLine
  case foreign =>
    rw [Column.carries_foreign_iff hformed, foreign_mark, mem_foreignKeyColumns_iff h]
  case primary =>
    rw [Column.carries_primary_iff hformed, primary_mark, mem_primaryKeyColumns_iff h]

theorem forall₂_isShown (h : ofLines? mysql group = some t) :
    List.Forall₂ (fun line field => ∃ c, mysql.column? line = some c ∧ c.IsShown group field)
      (group.filter fun line => (mysql.column? line).isSome) (t.block.filter isFieldLine) := by
  rw [filter_isFieldLine_block, (ofLines?_eq_some_iff.1 h).2.1, List.map_map,
    List.forall₂_map_right_iff]
  refine (forall₂_filter_filterMap mysql.column? group).imp ?_
  intro line c hread
  exact ⟨c, hread, isShown_mark h hread⟩

theorem exists_column_of_isFieldOf {column field : String} (ht : t.WellFormed)
    (hname : ∀ x ∈ column.toList, isNameChar x = true) (hmem : field ∈ t.block)
    (hfield : IsFieldOf column field) : ∃ c ∈ t.columns, c.name = column ∧ c.fieldLine = field := by
  have hmem' : field ∈ t.columns.map Column.fieldLine := by
    rw [← filter_isFieldLine_block]
    exact List.mem_filter.2 ⟨hmem, isFieldLine_of_isFieldOf hfield⟩
  obtain ⟨c, hc, rfl⟩ := List.mem_map.1 hmem'
  exact ⟨c, hc, (Column.eq_name_of_isFieldOf (ht.columns c hc) hname hfield).symm, rfl⟩

theorem carries_foreign_of_isFieldOf (h : ofLines? mysql group = some t) {k : ForeignKey}
    (hk : k ∈ t.foreignKeys) {column field : String} (hcolumn : k.column = some column)
    (hmem : field ∈ t.block) (hfield : IsFieldOf column field) : Carries "<<FK>>" field := by
  have ht := wellFormed_of_ofLines? h
  obtain ⟨n, hn, hname⟩ := (ht.foreignKeys k hk).column
  obtain rfl : n = column := Option.some.inj (hn.symm.trans hcolumn)
  obtain ⟨c, hc, rfl, rfl⟩ := exists_column_of_isFieldOf ht hname.2 hmem hfield
  rw [Column.carries_foreign_iff (ht.columns c hc), ht.foreign c hc]
  exact List.mem_filterMap.2 ⟨k, hk, hcolumn⟩

theorem isDepicted_of_ofLines? (h : ofLines? mysql group = some t) :
    t.IsDepicted showOrphans tables group := by
  have ht := wellFormed_of_ofLines? h
  have hkeys := (ofLines?_eq_some_iff.1 h).2.2.1
  constructor
  case assembled => exact h
  case opening => exact ⟨(ofLines?_eq_some_iff.1 h).1, rfl⟩
  case fields => exact forall₂_isShown h
  case links =>
    intro link hlink
    obtain ⟨k, hk, hdrawn, rfl⟩ := mem_links_iff.1 hlink
    obtain ⟨line, hline, hread⟩ := List.mem_filterMap.1 (hkeys ▸ hk)
    obtain ⟨c, r, s, rfl⟩ := (ht.foreignKeys k hk).exists_names
    refine ⟨line, hline, c, r, s, hread, rfl, ?_, ?_⟩
    · exact fun _ => carries_foreign_of_isFieldOf h hk rfl
    · rintro rfl
      exact ((isDrawn_iff_classLine rfl).1 hdrawn).resolve_left Bool.false_ne_true
  case drawn =>
    intro line hline k hread
    have hk : k ∈ t.foreignKeys := by
      rw [hkeys]
      exact List.mem_filterMap.2 ⟨line, hline, hread⟩
    obtain ⟨c, r, s, rfl⟩ := (ht.foreignKeys k hk).exists_names
    refine ⟨c, r, s, rfl, fun hmem => mem_links_iff.2 ⟨_, hk, ?_, rfl⟩⟩
    exact (isDrawn_iff_classLine rfl).2 (.inr hmem)

end Table

namespace Settings

theorem describe_preserves_meaning (s : Settings) (groups : List (List String))
    (tables : List Table) (h : tables = groups.filterMap (Table.ofLines? mysql)) :
    s.describe tables =
        unlines (["@startuml", "Title: " ++ s.title] ++ tables.flatMap Table.block
          ++ tables.flatMap (Table.links s.showOrphans tables) ++ ["", "@enduml"]) ∧
      List.Forall₂ (fun group t => t.IsDepicted s.showOrphans tables group)
        (groups.filter fun group => (Table.ofLines? mysql group).isSome) tables := by
  constructor
  · rw [describe_eq_unlines, diagramLines, Table.map_line_drawn]
  · have hgroups := forall₂_filter_filterMap (Table.ofLines? mysql) groups
    rw [← h] at hgroups
    exact hgroups.imp fun _ _ hread => Table.isDepicted_of_ofLines? hread

def guestLines : List String := [
  "CREATE TABLE \x60guests\x60 (",
  "  \x60id\x60 int(11) NOT NULL,",
  "  \x60guest\x60 varchar(40),",
  "  PRIMARY KEY (\x60id\x60)",
  ")"]

def guests : Table where
  name := "guests"
  columns := [
    { name := "id", type := some "int", scale := some "11", notNull := true, primary := true },
    { name := "guest", type := some "varchar", scale := some "40" }]
  primaryKeys := [{ columns := ["id"] }]

theorem describe_visits_and_guests_preserves_meaning :
    [Table.visits, guests] =
        [Table.visitLines, ["DROP TABLE \x60guests\x60;"], guestLines].filterMap
          (Table.ofLines? mysql) ∧
      Table.visits.links false [Table.visits, guests] = ["visits::guest -- guests::id"] ∧
      Table.visits.IsDepicted false [Table.visits, guests] Table.visitLines ∧
      guests.IsDepicted false [Table.visits, guests] guestLines := by
  have hvisits : Table.ofLines? mysql Table.visitLines = some Table.visits := by decide +kernel
  have hdrop : Table.ofLines? mysql ["DROP TABLE \x60guests\x60;"] = none := by decide +kernel
  have hguests : Table.ofLines? mysql guestLines = some guests := by decide +kernel
  have hread : [Table.visits, guests] =
      [Table.visitLines, ["DROP TABLE \x60guests\x60;"], guestLines].filterMap
        (Table.ofLines? mysql) := by
    simp only [List.filterMap_cons, hvisits, hdrop, hguests, List.filterMap_nil]
  have hgroups : ([Table.visitLines, ["DROP TABLE \x60guests\x60;"], guestLines].filter
      fun group => (Table.ofLines? mysql group).isSome) = [Table.visitLines, guestLines] := by
    simp [hvisits, hdrop, hguests]
  have hlinks : Table.visits.links false [Table.visits, guests] =
      ["visits::guest -- guests::id"] := by
    decide +kernel
  obtain ⟨_, hall⟩ := describe_preserves_meaning {} _ _ hread
  rw [hgroups, List.forall₂_cons, List.forall₂_cons] at hall
  exact ⟨hread, hlinks, hall.1, hall.2.1⟩

end Settings

end SchemaDiagram

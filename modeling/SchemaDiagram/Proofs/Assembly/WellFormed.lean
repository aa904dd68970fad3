import SchemaDiagram.Proofs.Assembly.Reconciliation
import SchemaDiagram.Proofs.Ddl.HeaderLine
import SchemaDiagram.Proofs.Ddl.LineKind

namespace SchemaDiagram

open Ddl

def IsMemberName (n : String) : Prop := n.toList ≠ [] ∧ IsKeyName n.toList

structure ForeignKey.WellFormed (k : ForeignKey) : Prop where
  column : ∃ n, k.column = some n ∧ IsKeyName n.toList
  referencedTable : ∃ n, k.referencedTable = some n ∧ IsKeyName n.toList
  referencedColumn : ∃ n, k.referencedColumn = some n ∧ IsKeyName n.toList

structure PrimaryKey.WellFormed (k : PrimaryKey) : Prop where
  ne_nil : k.columns ≠ []
  columns : ∀ n ∈ k.columns, IsMemberName n

structure UniqueKey.WellFormed (k : UniqueKey) : Prop where
  name : IsKeyName k.name.toList
  columns : ∀ n ∈ k.columns, IsMemberName n

structure Table.WellFormed (t : Table) : Prop where
  name : IsName t.name.toList
  columns : ∀ c ∈ t.columns, c.WellFormed
  foreignKeys : ∀ k ∈ t.foreignKeys, k.WellFormed
  primaryKeys : ∀ k ∈ t.primaryKeys, k.WellFormed
  uniqueKeys : ∀ k ∈ t.uniqueKeys, k.WellFormed
  foreign : ∀ c ∈ t.columns, c.foreign = true ↔ c.name ∈ t.foreignKeyColumns
  primary : ∀ c ∈ t.columns, c.primary = true ↔ c.name ∈ t.primaryKeyColumns

namespace Ddl

theorem isKeyName_of_quotedTail {text : List Char} {names : List (List Char)}
    (h : QuotedTail text names) : ∀ n ∈ names, IsKeyName n := by
  induction h with
  | nil => exact fun n hn => nomatch hn
  | cons hkey _ _ ih => exact List.forall_mem_cons.2 ⟨hkey, ih⟩

theorem isKeyName_of_quotedList {text : List Char} {names : List (List Char)}
    (h : QuotedList text names) : ∀ n ∈ names, IsKeyName n := by
  obtain ⟨hkey, htail⟩ := h
  exact List.forall_mem_cons.2 ⟨hkey, isKeyName_of_quotedTail htail⟩

theorem isMemberName_of_quotedList {text : List Char} {names : List (List Char)}
    (h : QuotedList text names) :
    ∀ n ∈ (names.filter (· ≠ [])).map String.ofList, IsMemberName n := by
  intro n hn
  obtain ⟨m, hm, rfl⟩ := List.mem_map.1 hn
  obtain ⟨hmem, hne⟩ := List.mem_filter.1 hm
  rw [IsMemberName, String.toList_ofList]
  exact ⟨of_decide_eq_true hne, isKeyName_of_quotedList h m hmem⟩

theorem wellFormed_of_foreignKey? {line : List Char} {k : ForeignKey}
    (h : foreignKey? line = some k) : k.WellFormed := by
  obtain ⟨_, _, c, t, s, _, _, _, hc, ht, hs, _, _, rfl⟩ := foreignKey?_eq_some_iff.1 h
  exact ⟨⟨_, rfl, by rwa [String.toList_ofList]⟩, ⟨_, rfl, by rwa [String.toList_ofList]⟩,
    ⟨_, rfl, by rwa [String.toList_ofList]⟩⟩

theorem wellFormed_of_primaryKey? {line : List Char} {k : PrimaryKey}
    (h : primaryKey? line = some k) : k.WellFormed := by
  obtain ⟨_, _, names, _, _, hnames, _, hne, _, rfl⟩ := primaryKey?_eq_some_iff.1 h
  exact ⟨fun hnil => hne (List.map_eq_nil_iff.1 hnil), isMemberName_of_quotedList hnames⟩

theorem wellFormed_of_uniqueKey? {line : List Char} {k : UniqueKey}
    (h : uniqueKey? line = some k) : k.WellFormed := by
  obtain ⟨_, n, _, names, _, _, hkey, hnames, _, _, rfl⟩ := uniqueKey?_eq_some_iff.1 h
  exact ⟨by rwa [String.toList_ofList], isMemberName_of_quotedList hnames⟩

theorem isName_of_headerName {line n : List Char} (h : headerName line = some n) : IsName n := by
  obtain ⟨_, _, _, _, _, _, hname, _⟩ := headerName_sound h
  exact hname

end Ddl

namespace Column

theorem WellFormed.mark {c : Column} (h : c.WellFormed) (t : Table) : (t.mark c).WellFormed :=
  ⟨h.name, h.type, h.scale, h.defaultText⟩

end Column

namespace Table

theorem wellFormed_of_ofLines? {lines : List String} {t : Table}
    (h : ofLines? mysql lines = some t) : t.WellFormed := by
  have hflags := flags_of_mem_columns h
  obtain ⟨hname, hcolumns, hforeign, hprimary, hunique⟩ := ofLines?_eq_some_iff.1 h
  obtain ⟨first, _, hheader⟩ := Option.bind_eq_some_iff.1 hname
  obtain ⟨n, hn, hofList⟩ := Option.map_eq_some_iff.1 hheader
  constructor
  case name =>
    rw [← hofList, String.toList_ofList]
    exact isName_of_headerName hn
  case columns =>
    rw [hcolumns, List.forall_mem_map, List.forall_mem_filterMap]
    exact fun line _ c hline => (column?_sound hline).1.mark t
  case foreignKeys =>
    rw [hforeign, List.forall_mem_filterMap]
    exact fun line _ k hline => wellFormed_of_foreignKey? hline
  case primaryKeys =>
    rw [hprimary, List.forall_mem_filterMap]
    exact fun line _ k hline => wellFormed_of_primaryKey? hline
  case uniqueKeys =>
    rw [hunique, List.forall_mem_filterMap]
    exact fun line _ k hline => wellFormed_of_uniqueKey? hline
  case foreign => exact fun c hc => (hflags c hc).1
  case primary => exact fun c hc => (hflags c hc).2

end Table

end SchemaDiagram

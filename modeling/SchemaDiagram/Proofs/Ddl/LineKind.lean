import SchemaDiagram.Ddl.Dialect
import SchemaDiagram.Proofs.Ddl.ColumnLine
import SchemaDiagram.Proofs.Ddl.KeyLine

namespace SchemaDiagram.Ddl

open Text

inductive LineKind where
  | column
  | primaryKey
  | uniqueKey
  | foreignKey
  deriving DecidableEq, Repr

namespace LineKind

def opening : LineKind → List Char
  | column => [tick]
  | primaryKey => "PRIMARY KEY (".toList
  | uniqueKey => "UNIQUE KEY ".toList
  | foreignKey => "CONSTRAINT ".toList

def Opens (k : LineKind) (line : List Char) : Prop := k.opening <+: skipBlanks line

theorem eq_of_opens {k l : LineKind} {line : List Char} (hk : k.Opens line) (hl : l.Opens line) :
    k = l := by
  have h := List.prefix_or_prefix_of_prefix hk hl
  revert h
  cases k <;> cases l <;> decide

theorem opens_append {k : LineKind} {b : List Char} (hb : onlyBlanks b = true) (r : List Char) :
    k.Opens (b ++ (k.opening ++ r)) := by
  have hstop : Stops isBlank (k.opening ++ r) := by
    cases k <;> exact stops_cons (by decide) _
  rw [Opens, skipBlanks_append_of_stops hb hstop]
  exact List.prefix_append k.opening r

theorem not_opens_of_prefix {k : LineKind} {o line : List Char} (hline : o <+: line)
    (ho : Stops isBlank line) (hk : ¬ k.opening <+: o) (hk' : ¬ o <+: k.opening) :
    ¬ k.Opens line := by
  intro h
  rw [Opens, skipBlanks_of_stops ho] at h
  rcases List.prefix_or_prefix_of_prefix h hline with hprefix | hprefix
  · exact hk hprefix
  · exact hk' hprefix

end LineKind

open LineKind

theorem opens_of_column? {line : List Char} {c : Column} (h : column? line = some c) :
    column.Opens line := by
  obtain ⟨_, _, _, b, e, hb, _, rfl⟩ := column?_sound h
  rw [Column.declaration, List.append_assoc, ticked_append]
  exact opens_append hb _

theorem opens_of_primaryKey? {line : List Char} {k : PrimaryKey}
    (h : primaryKey? line = some k) : primaryKey.Opens line := by
  obtain ⟨b, _, _, _, hb, _, _, _, rfl, _⟩ := primaryKey?_eq_some_iff.1 h
  exact opens_append hb _

theorem opens_of_uniqueKey? {line : List Char} {k : UniqueKey} (h : uniqueKey? line = some k) :
    uniqueKey.Opens line := by
  obtain ⟨b, _, _, _, _, hb, _, _, _, rfl, _⟩ := uniqueKey?_eq_some_iff.1 h
  exact opens_append hb _

theorem opens_of_foreignKey? {line : List Char} {k : ForeignKey}
    (h : foreignKey? line = some k) : foreignKey.Opens line := by
  obtain ⟨b, _, _, _, _, _, hb, _, _, _, _, _, rfl, _⟩ := foreignKey?_eq_some_iff.1 h
  exact opens_append hb _

variable {line : String}

theorem mysql_column?_eq_none (h : ¬ column.Opens line.toList) : mysql.column? line = none :=
  Option.eq_none_iff_forall_not_mem.2 fun _ hc => h (opens_of_column? hc)

theorem mysql_primaryKey?_eq_none (h : ¬ primaryKey.Opens line.toList) :
    mysql.primaryKey? line = none :=
  Option.eq_none_iff_forall_not_mem.2 fun _ hk => h (opens_of_primaryKey? hk)

theorem mysql_uniqueKey?_eq_none (h : ¬ uniqueKey.Opens line.toList) :
    mysql.uniqueKey? line = none :=
  Option.eq_none_iff_forall_not_mem.2 fun _ hk => h (opens_of_uniqueKey? hk)

theorem mysql_foreignKey?_eq_none (h : ¬ foreignKey.Opens line.toList) :
    mysql.foreignKey? line = none :=
  Option.eq_none_iff_forall_not_mem.2 fun _ hk => h (opens_of_foreignKey? hk)

end SchemaDiagram.Ddl

import Mathlib.Data.List.Perm.Basic
import SchemaDiagram.Proofs.Assembly.Definition
import SchemaDiagram.Proofs.Assembly.Reconciliation
import SchemaDiagram.Proofs.Ddl.Padding

namespace SchemaDiagram

open Text Ddl

namespace Ddl

variable {line : String}

namespace LineKind

def all : List LineKind := [column, primaryKey, uniqueKey, foreignKey]

theorem nodup_all : all.Nodup := by decide

end LineKind

def Dialect.clause? (d : Dialect) : LineKind → String → Option Clause
  | .column, line => (d.column? line).map .column
  | .primaryKey, line => (d.primaryKey? line).map .primaryKey
  | .uniqueKey, line => (d.uniqueKey? line).map .uniqueKey
  | .foreignKey, line => (d.foreignKey? line).map .foreignKey

def Dialect.clauses (d : Dialect) (line : String) : List Clause :=
  LineKind.all.filterMap fun k => d.clause? k line

theorem opens_of_clause? {k : LineKind} {x : Clause} (h : mysql.clause? k line = some x) :
    k.Opens line.toList := by
  cases k with
  | column =>
      obtain ⟨c, hc, rfl⟩ := Option.map_eq_some_iff.1 h
      exact opens_of_column? hc
  | primaryKey =>
      obtain ⟨k, hk, rfl⟩ := Option.map_eq_some_iff.1 h
      exact opens_of_primaryKey? hk
  | uniqueKey =>
      obtain ⟨k, hk, rfl⟩ := Option.map_eq_some_iff.1 h
      exact opens_of_uniqueKey? hk
  | foreignKey =>
      obtain ⟨k, hk, rfl⟩ := Option.map_eq_some_iff.1 h
      exact opens_of_foreignKey? hk

theorem length_filterMap_le_one {α β : Type} {f : α → Option β} {xs : List α} (hxs : xs.Nodup)
    (h : ∀ {a b x y}, f a = some x → f b = some y → a = b) : (xs.filterMap f).length ≤ 1 := by
  induction xs with
  | nil => exact Nat.zero_le 1
  | cons a xs ih =>
      obtain ⟨ha, hxs⟩ := List.nodup_cons.1 hxs
      cases hx : f a with
      | none =>
          rw [List.filterMap_cons_none hx]
          exact ih hxs
      | some x =>
          have hrest : xs.filterMap f = [] := by
            rw [List.filterMap_eq_nil_iff]
            intro b hb
            rw [Option.eq_none_iff_forall_not_mem]
            intro y hy
            exact ha (h hx hy ▸ hb)
          rw [List.filterMap_cons_some hx, hrest]
          exact Nat.le_refl 1

theorem length_clauses_le_one (line : String) : (mysql.clauses line).length ≤ 1 :=
  length_filterMap_le_one LineKind.nodup_all
    fun hx hy => LineKind.eq_of_opens (opens_of_clause? hx) (opens_of_clause? hy)

theorem headerName_eq_none {x e : List Char} (hx : EndsVisibly x)
    (hopen : EndsOutside (· == '(') x) (he : endsDefinition e = true) :
    headerName (x ++ e) = none := by
  rw [Option.eq_none_iff_forall_not_mem]
  intro n hn
  obtain ⟨f, hline, _⟩ := HeaderForm.headerName_eq_some_iff.1 hn
  have hsplit : (f.before.val ++ (f.opening ++ (ticked f.name ++ " (".toList))) ++ f.margin.val =
      x ++ e := by
    rw [← hline, HeaderForm.header]
    simp only [List.append_assoc]
  obtain ⟨t, ht, rfl⟩ := exists_append_of_append_eq hx f.margin.property hsplit
  have htail : EndsOutside (· == '(') t := by
    intro c hc
    have hmem := List.mem_append_left f.margin.val (List.mem_of_getLast? hc)
    rcases mem_of_endsDefinition he c hmem with hblank | rfl
    · rw [beq_eq_false_iff_ne]
      rintro rfl
      cases hblank
    · rfl
  have hlast : '(' ∈ (x ++ t).getLast? := by
    rw [← ht, ← List.append_assoc, ← List.append_assoc, List.getLast?_append]
    rfl
  cases endsOutside_append hopen htail '(' hlast

theorem headerName_eq_none_of_column? {line : List Char} {c : Column} (h : column? line = some c) :
    headerName line = none := by
  obtain ⟨hc, _, _, b, e, _, he, rfl⟩ := column?_eq_some_iff.1 h
  rw [← List.append_assoc]
  exact headerName_eq_none (endsVisibly_append_declaration hc b)
    (endsOutside_append_declaration (by decide) hc b) he

theorem headerName_eq_none_of_primaryKey? {line : List Char} {k : PrimaryKey}
    (h : primaryKey? line = some k) : headerName line = none := by
  obtain ⟨b, text, _, e, _, _, he, _, rfl, _⟩ := primaryKey?_eq_some_iff.1 h
  have hassoc : b ++ ("PRIMARY KEY (".toList ++ (text ++ (")".toList ++ e))) =
      (b ++ ("PRIMARY KEY (".toList ++ text) ++ ")".toList) ++ e := by
    simp only [List.append_assoc]
  rw [hassoc]
  exact headerName_eq_none (endsVisibly_append_close _)
    (endsOutside_append_of_ne_nil _ (by decide) (by decide)) he

theorem mysql_table?_eq_none (h : headerName line.toList = none) : mysql.table? line = none := by
  rw [Dialect.table?, mysql_header?, h]
  rfl

theorem column?_and_primaryKey?_eq_none (h : (mysql.table? line).isSome = true) :
    mysql.column? line = none ∧ mysql.primaryKey? line = none := by
  constructor
  · rw [Option.eq_none_iff_forall_not_mem]
    intro c hc
    rw [mysql_table?_eq_none (headerName_eq_none_of_column? hc)] at h
    cases h
  · rw [Option.eq_none_iff_forall_not_mem]
    intro k hk
    rw [mysql_table?_eq_none (headerName_eq_none_of_primaryKey? hk)] at h
    cases h

end Ddl

theorem flatMap_filterMap_perm {α β γ : Type} (f : α → β → Option γ) (xs : List α) (ys : List β) :
    (xs.flatMap fun x => ys.filterMap (f x)).Perm (ys.flatMap fun y => xs.filterMap (f · y)) := by
  induction ys with
  | nil => simp
  | cons y ys ih =>
      have hcons (x : α) : (y :: ys).filterMap (f x) = (f x y).toList ++ ys.filterMap (f x) := by
        cases hxy : f x y <;> simp [hxy]
      simp only [hcons, List.flatMap_cons]
      refine (List.flatMap_append_perm xs _ _).symm.trans ?_
      rw [← List.filterMap_eq_flatMap_toList]
      exact ih.append_left _

theorem filterMap_filter_of_forall {α β : Type} {f : α → Option β} {p : α → Bool}
    (h : ∀ x, (f x).isSome = true → p x = true) (xs : List α) :
    (xs.filter p).filterMap f = xs.filterMap f := by
  rw [List.filterMap_filter]
  congr 1
  funext x
  cases hx : f x with
  | none => exact ite_self none
  | some y => rw [if_pos (h x (by rw [hx]; rfl))]

namespace Table

variable {lines : List String} {t : Table}

def unmarked (t : Table) : Table := { t with columns := t.columns.map Column.unmarked }

theorem clauses_unmarked_perm (h : ofLines? mysql lines = some t) :
    t.unmarked.clauses.Perm (lines.flatMap mysql.clauses) := by
  have hcolumns := (map_unmarked_columns h).trans (map_unmarked_filterMap_column? lines)
  obtain ⟨_, _, hforeign, hprimary, hunique⟩ := ofLines?_eq_some_iff.1 h
  have hkinds : t.unmarked.clauses =
      LineKind.all.flatMap fun k => lines.filterMap (mysql.clause? k) := by
    rw [Table.clauses, unmarked, hcolumns, hforeign, hprimary, hunique]
    simp only [LineKind.all, List.map_filterMap, List.flatMap_cons, List.flatMap_nil,
      List.append_assoc, List.append_nil]
    rfl
  rw [hkinds]
  exact flatMap_filterMap_perm mysql.clause? LineKind.all lines

def bodyLines (lines : List String) : List String :=
  lines.filter fun l => (mysql.table? l).isNone

theorem filterMap_bodyLines {α : Type} {read : String → Option α}
    (h : ∀ l, (mysql.table? l).isSome = true → read l = none) (lines : List String) :
    (bodyLines lines).filterMap read = lines.filterMap read := by
  apply filterMap_filter_of_forall
  intro l hl
  rw [Option.isNone_iff_eq_none, Option.eq_none_iff_forall_not_mem]
  intro u hu
  rw [h l (Option.isSome_of_eq_some hu)] at hl
  cases hl

theorem lines_contribute_once :
    (∀ line, (mysql.clauses line).length ≤ 1) ∧
      (∀ line, (mysql.table? line).isSome = true →
        mysql.column? line = none ∧ mysql.primaryKey? line = none) ∧
      ∀ lines t, ofLines? mysql lines = some t →
        t.unmarked.clauses.Perm (lines.flatMap mysql.clauses) ∧
          t.unmarked.columns = (bodyLines lines).filterMap mysql.column? ∧
          t.primaryKeys = (bodyLines lines).filterMap mysql.primaryKey? := by
  refine ⟨length_clauses_le_one, fun _ => column?_and_primaryKey?_eq_none, ?_⟩
  intro lines t h
  have hcolumns := (map_unmarked_columns h).trans (map_unmarked_filterMap_column? lines)
  refine ⟨clauses_unmarked_perm h, ?_, ?_⟩
  · rw [filterMap_bodyLines (fun l hl => (column?_and_primaryKey?_eq_none hl).1)]
    exact hcolumns
  · rw [filterMap_bodyLines (fun l hl => (column?_and_primaryKey?_eq_none hl).2)]
    exact (ofLines?_eq_some_iff.1 h).2.2.2.1

def bookingLines : List String := [
  "CREATE TABLE \x60bookings\x60 (",
  "  \x60guest\x60 int,",
  "UNIQUE KEY \x60once\x60 (\x60guest\x60) CREATE TABLE \x60rooms\x60 (",
  "  PRIMARY KEY (\x60guest\x60)",
  "CONSTRAINT \x60fk\x60 FOREIGN KEY (\x60guest\x60) REFERENCES \x60guests\x60 (\x60id\x60) " ++
    "CREATE TABLE \x60keys\x60 (",
  ")"]

def bookings : Table where
  name := "bookings"
  columns := [{ name := "guest", type := some "int", primary := true, foreign := true }]
  foreignKeys := [{
    column := some "guest", referencedTable := some "guests", referencedColumn := some "id" }]
  primaryKeys := [{ columns := ["guest"] }]
  uniqueKeys := [{ name := "once", columns := ["guest"] }]

theorem bookingLines_contribute_once :
    ofLines? mysql bookingLines = some bookings ∧
      (∀ l ∈ [bookingLines[2], bookingLines[4]], (mysql.table? l).isSome = true ∧
        mysql.column? l = none ∧ mysql.primaryKey? l = none) ∧
      bookings.unmarked.clauses.Perm (bookingLines.flatMap mysql.clauses) := by
  have hread : ofLines? mysql bookingLines = some bookings := by decide +kernel
  have hheader : ∀ l ∈ [bookingLines[2], bookingLines[4]], (mysql.table? l).isSome = true := by
    decide +kernel
  obtain ⟨_, hnone, hparts⟩ := lines_contribute_once
  refine ⟨hread, ?_, (hparts bookingLines bookings hread).1⟩
  intro l hl
  exact ⟨hheader l hl, hnone l (hheader l hl)⟩

end Table

end SchemaDiagram

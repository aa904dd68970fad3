import Mathlib.Data.List.FinRange
import Mathlib.Data.List.Sort
import SchemaDiagram.Proofs.Assembly.Contribution
import SchemaDiagram.Proofs.Assembly.Headers

namespace SchemaDiagram

open Ddl

section Positions

variable {α : Type} {p : α → Bool} {xs ys : List α}

theorem filter_eq_map_finRange (p : α → Bool) (xs : List α) :
    xs.filter p = ((List.finRange xs.length).filter fun i => p xs[i]).map fun i => xs[i] := by
  conv_lhs => rw [← List.map_getElem_finRange xs]
  exact List.filter_map

theorem filter_eq_of_lt (e : Fin ys.length ≃ Fin xs.length) (hval : ∀ i, ys[i] = xs[e i])
    (hlt : ∀ i j, i < j → p ys[i] = true → p ys[j] = true → e i < e j) :
    xs.filter p = ys.filter p := by
  have hpositions : ((List.finRange ys.length).filter fun i => p ys[i]).map e =
      (List.finRange xs.length).filter fun i => p xs[i] := by
    apply List.Pairwise.eq_of_mem_iff (r := (· < ·))
    · rw [List.pairwise_map, List.pairwise_filter]
      exact (List.pairwise_lt_finRange ys.length).imp fun {i j} hij => hlt i j hij
    · exact (List.pairwise_lt_finRange xs.length).filter _
    · intro j
      obtain ⟨i, rfl⟩ := e.surjective j
      rw [List.mem_map_of_injective e.injective, List.mem_filter, List.mem_filter, hval]
      simp only [List.mem_finRange]
  rw [filter_eq_map_finRange p xs, filter_eq_map_finRange p ys, ← hpositions, List.map_map]
  exact List.map_congr_left fun i _ => (hval i).symm

theorem eq_head?_append_tail (xs : List α) : xs = xs.head?.toList ++ xs.tail := by
  cases xs <;> rfl

theorem filter_eq_of_tail (hhead : xs.head? = ys.head?)
    (htail : xs.tail.filter p = ys.tail.filter p) : xs.filter p = ys.filter p := by
  rw [eq_head?_append_tail xs, eq_head?_append_tail ys, List.filter_append, List.filter_append,
    hhead, htail]

end Positions

namespace Ddl

def Dialect.reads (d : Dialect) (k : LineKind) (line : String) : Bool := (d.clause? k line).isSome

/-- The first lines in another order that is the same for the lines of each kind. -/
def Dialect.KeepsOrder (d : Dialect) (xs ys : List String) : Prop :=
  ∃ e : Fin ys.length ≃ Fin xs.length, (∀ i, ys[i] = xs[e i]) ∧
    ∀ k i j, i < j → d.reads k ys[i] = true → d.reads k ys[j] = true → e i < e j

theorem clauses_ne_nil_of_reads {d : Dialect} {k : LineKind} {line : String}
    (h : d.reads k line = true) : d.clauses line ≠ [] := by
  obtain ⟨x, hx⟩ := Option.isSome_iff_exists.1 h
  have hk : k ∈ LineKind.all := by cases k <;> decide
  exact List.ne_nil_of_mem (List.mem_filterMap.2 ⟨k, hk, hx⟩)

theorem filter_reads_filter_clauses (d : Dialect) (k : LineKind) (lines : List String) :
    (lines.filter fun l => d.clauses l ≠ []).filter (d.reads k) = lines.filter (d.reads k) := by
  rw [List.filter_filter]
  congr 1
  funext l
  cases hl : d.reads k l with
  | false => rfl
  | true => exact decide_eq_true (clauses_ne_nil_of_reads hl)

end Ddl

namespace Table

variable {d : Dialect} {lines lines' : List String} {t u : Table}

structure SameUpToOrder (t u : Table) : Prop where
  name : t.name = u.name
  columns : t.columns.Perm u.columns
  foreignKeys : t.foreignKeys.Perm u.foreignKeys
  primaryKeys : t.primaryKeys.Perm u.primaryKeys
  uniqueKeys : t.uniqueKeys.Perm u.uniqueKeys

theorem mark_eq_of_perm (hforeign : t.foreignKeys.Perm u.foreignKeys)
    (hprimary : t.primaryKeys.Perm u.primaryKeys) : t.mark = u.mark := by
  funext c
  have hforeign' : t.foreignKeyColumns.Perm u.foreignKeyColumns := hforeign.filterMap _
  have hprimary' : t.primaryKeyColumns.Perm u.primaryKeyColumns := hprimary.flatMap_right _
  rw [mark, mark, hforeign'.contains_eq, hprimary'.contains_eq]

theorem sameUpToOrder_of_perm (hperm : lines.Perm lines') (ht : ofLines? d lines = some t)
    (hu : ofLines? d lines' = some u) (hname : t.name = u.name) : SameUpToOrder t u := by
  obtain ⟨_, hcolumns, hforeign, hprimary, hunique⟩ := ofLines?_eq_some_iff.1 ht
  obtain ⟨_, hcolumns', hforeign', hprimary', hunique'⟩ := ofLines?_eq_some_iff.1 hu
  have hkeys : t.foreignKeys.Perm u.foreignKeys := by
    rw [hforeign, hforeign']
    exact hperm.filterMap _
  have hmembers : t.primaryKeys.Perm u.primaryKeys := by
    rw [hprimary, hprimary']
    exact hperm.filterMap _
  refine ⟨hname, ?_, hkeys, hmembers, ?_⟩
  · rw [hcolumns, hcolumns', mark_eq_of_perm hkeys hmembers]
    exact (hperm.filterMap _).map _
  · rw [hunique, hunique']
    exact hperm.filterMap _

theorem rel_ofLines?_of_perm (hhead : lines.head? = lines'.head?) (hperm : lines.Perm lines') :
    Option.Rel SameUpToOrder (ofLines? d lines) (ofLines? d lines') := by
  have hname : (ofLines? d lines).map name = (ofLines? d lines').map name := by
    rw [map_name_ofLines?, map_name_ofLines?, hhead]
  cases ht : ofLines? d lines with
  | none =>
      rw [ht, Option.map_none, eq_comm, Option.map_eq_none_iff] at hname
      rw [hname]
      exact .none
  | some t =>
      rw [ht, Option.map_some, eq_comm] at hname
      obtain ⟨u, hu, hname⟩ := Option.map_eq_some_iff.1 hname
      rw [hu]
      exact .some (sameUpToOrder_of_perm hperm ht hu hname.symm)

theorem ofLines?_congr (hhead : lines.head? = lines'.head?)
    (hkinds : ∀ k, lines.filter (d.reads k) = lines'.filter (d.reads k)) :
    ofLines? d lines = ofLines? d lines' := by
  have hparts {α : Type} (read : String → Option α) (k : LineKind)
      (hk : ∀ l, (read l).isSome = true → d.reads k l = true) :
      lines.filterMap read = lines'.filterMap read := by
    rw [← filterMap_filter_of_forall hk lines, hkinds k, filterMap_filter_of_forall hk]
  have hcolumns := hparts d.column? .column fun _ h => (Option.isSome_map ..).trans h
  have hprimary := hparts d.primaryKey? .primaryKey fun _ h => (Option.isSome_map ..).trans h
  have hunique := hparts d.uniqueKey? .uniqueKey fun _ h => (Option.isSome_map ..).trans h
  have hforeign := hparts d.foreignKey? .foreignKey fun _ h => (Option.isSome_map ..).trans h
  apply Option.ext
  intro t
  rw [ofLines?_eq_some_iff, ofLines?_eq_some_iff, hhead, hcolumns, hprimary, hunique, hforeign]

theorem order_of_lines_is_free (d : Dialect) (lines lines' : List String)
    (hhead : lines.head? = lines'.head?) :
    (lines.tail.Perm lines'.tail →
        Option.Rel SameUpToOrder (ofLines? d lines) (ofLines? d lines')) ∧
      (d.KeepsOrder lines.tail lines'.tail → ofLines? d lines = ofLines? d lines') ∧
      ((lines.tail.filter fun l => d.clauses l ≠ []) =
          (lines'.tail.filter fun l => d.clauses l ≠ []) →
        ofLines? d lines = ofLines? d lines') := by
  refine ⟨?_, ?_, ?_⟩
  · intro hperm
    apply rel_ofLines?_of_perm hhead
    rw [eq_head?_append_tail lines, eq_head?_append_tail lines', hhead]
    exact hperm.append_left _
  · rintro ⟨e, hval, hlt⟩
    refine ofLines?_congr hhead fun k => filter_eq_of_tail hhead ?_
    exact filter_eq_of_lt e hval (hlt k)
  · intro hclauses
    refine ofLines?_congr hhead fun k => filter_eq_of_tail hhead ?_
    rw [← filter_reads_filter_clauses d k lines.tail, hclauses, filter_reads_filter_clauses]

def stayLines : List String := [
  "CREATE TABLE \x60stays\x60 (",
  "  \x60day\x60 date,",
  "  \x60guest\x60 int(11),",
  "  PRIMARY KEY (\x60guest\x60,\x60day\x60),",
  "  CONSTRAINT \x60fk\x60 FOREIGN KEY (\x60guest\x60) REFERENCES \x60guests\x60 (\x60id\x60)"]

def keysFirstLines : List String :=
  stayLines.take 1 ++ stayLines.drop 3 ++ (stayLines.drop 1).take 2

def commentedLines : List String :=
  stayLines.take 1 ++ ["  KEY \x60day\x60 (\x60day\x60),"] ++ (stayLines.drop 1).take 2 ++
    ["", "  -- keys"] ++ stayLines.drop 3 ++ [") ENGINE=InnoDB;"]

def stays : Table where
  name := "stays"
  columns := [
    { name := "day", type := some "date", primary := true },
    { name := "guest", type := some "int", scale := some "11", primary := true, foreign := true }]
  foreignKeys := [{
    column := some "guest", referencedTable := some "guests", referencedColumn := some "id" }]
  primaryKeys := [{ columns := ["guest", "day"] }]

def halfTurn : Fin 4 ≃ Fin 4 where
  toFun i := i + 2
  invFun i := i + 2
  left_inv := show ∀ i : Fin 4, i + 2 + 2 = i by decide
  right_inv := show ∀ i : Fin 4, i + 2 + 2 = i by decide

theorem keepsOrder_keysFirstLines : mysql.KeepsOrder stayLines.tail keysFirstLines.tail := by
  refine ⟨halfTurn, by decide, ?_⟩
  intro k
  cases k <;> decide +kernel

theorem stayLines_order_is_free :
    ofLines? mysql stayLines = some stays ∧
      (stayLines.tail.Perm stayLines.tail.reverse ∧
        Option.Rel SameUpToOrder (some stays)
          (ofLines? mysql (stayLines.take 1 ++ stayLines.tail.reverse))) ∧
      (mysql.KeepsOrder stayLines.tail keysFirstLines.tail ∧
        ofLines? mysql keysFirstLines = some stays) ∧
      (stayLines.tail.filter fun l => mysql.clauses l ≠ []) =
          (commentedLines.tail.filter fun l => mysql.clauses l ≠ []) ∧
        ofLines? mysql commentedLines = some stays := by
  have hread : ofLines? mysql stayLines = some stays := by decide +kernel
  have hsilent : (stayLines.tail.filter fun l => mysql.clauses l ≠ []) =
      (commentedLines.tail.filter fun l => mysql.clauses l ≠ []) := by decide +kernel
  have hreverse := order_of_lines_is_free mysql stayLines
    (stayLines.take 1 ++ stayLines.tail.reverse) rfl
  have hkeys := order_of_lines_is_free mysql stayLines keysFirstLines rfl
  have hcomments := order_of_lines_is_free mysql stayLines commentedLines rfl
  have hperm : stayLines.tail.Perm stayLines.tail.reverse := (List.reverse_perm _).symm
  rw [hread] at hreverse hkeys hcomments
  refine ⟨hread, ⟨hperm, hreverse.1 hperm⟩, ⟨keepsOrder_keysFirstLines, ?_⟩, hsilent, ?_⟩
  · exact (hkeys.2.1 keepsOrder_keysFirstLines).symm
  · exact (hcomments.2.2 hsilent).symm

end Table

end SchemaDiagram

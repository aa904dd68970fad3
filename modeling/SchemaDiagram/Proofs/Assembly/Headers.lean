import SchemaDiagram.Proofs.Assembly.Reconciliation
import SchemaDiagram.Proofs.Ddl.HeaderLine
import SchemaDiagram.Proofs.Ddl.Segmentation

namespace SchemaDiagram

open Text Ddl

variable {line : String} {lines : List String}

def IsIndentedHeader (line : String) : Prop := ∃ n, IsHeader (skipBlanks line.toList) n

theorem isStart_of_isIndentedHeader (h : IsIndentedHeader line) : IsStart line := by
  obtain ⟨n, b, e, _, _, hheader⟩ := h
  refine ⟨line.toList.takeWhile isBlank, "CREATE".toList, " ".toList, "TABLE".toList,
    " ".toList ++ (flagText "IF NOT EXISTS " b ++ (ticked n ++ (" (".toList ++ e))),
    onlyBlanks_takeWhile _, rfl, by decide, by decide, rfl, rfl, ?_⟩
  calc line.toList
      = line.toList.takeWhile isBlank ++ skipBlanks line.toList :=
        (takeWhile_append_skipBlanks line.toList).symm
    _ = _ := by
        rw [hheader]
        rfl

namespace Table

theorem map_name_ofLines? (d : Dialect) (lines : List String) :
    (ofLines? d lines).map name = lines.head?.bind d.header? := by
  cases lines with
  | nil => rfl
  | cons first rest =>
      rw [ofLines?, Option.map_map, List.head?_cons, Option.bind_some]
      exact Option.map_id'

end Table

theorem filterMap_head?_statements (lines : List String) :
    (statements lines).filterMap List.head? = lines.filter startsStatement := by
  induction lines with
  | nil => rfl
  | cons l ls ih =>
      cases hstart : startsStatement l with
      | true =>
          rw [statements_cons_of_starts hstart, List.filterMap_cons_some List.head?_cons, ih,
            List.filter_cons_of_pos hstart]
      | false =>
          rw [statements_cons_of_not_starts hstart, ih, List.filter_cons_of_neg (by simp [hstart])]

theorem map_name_tables (d : Dialect) (lines : List String) :
    ((statements lines).filterMap (Table.ofLines? d)).map Table.name =
      (lines.filter startsStatement).filterMap d.header? := by
  rw [← filterMap_head?_statements, List.map_filterMap, List.filterMap_filterMap]
  congr 1
  funext group
  exact Table.map_name_ofLines? d group

theorem map_name_tables_eq_iff {d : Dialect} :
    ((statements lines).filterMap (Table.ofLines? d)).map Table.name = lines.filterMap d.header? ↔
      ∀ line ∈ lines, (d.header? line).isSome = true → IsStart line := by
  simp only [map_name_tables, ← startsStatement_iff]
  induction lines with
  | nil => exact iff_of_true rfl (List.forall_mem_nil _)
  | cons l ls ih =>
      rw [List.forall_mem_cons, ← ih]
      cases hheader : d.header? l with
      | none => cases hstart : startsStatement l <;> simp [hheader, hstart]
      | some name =>
          cases hstart : startsStatement l with
          | true => simp [hheader, hstart]
          | false =>
              -- The header is lost, and the headers behind it cannot make up for it.
              refine iff_of_false ?_ (fun h => nomatch h.1 rfl)
              rw [List.filter_cons_of_neg (by simp [hstart]), List.filterMap_cons_some hheader]
              intro heq
              have hle : ((ls.filter startsStatement).filterMap d.header?).length ≤
                  (ls.filterMap d.header?).length :=
                (List.filter_sublist.filterMap d.header?).length_le
              rw [heq, List.length_cons] at hle
              omega

def headerIndices (d : Dialect) (lines : List String) : List ℕ :=
  lines.findIdxs fun line => (d.header? line).isSome

theorem findIdxs_sublist {α : Type} {p q : α → Bool} {xs : List α}
    (h : ∀ x ∈ xs, p x = true → q x = true) (s : ℕ) :
    (xs.findIdxs p s).Sublist (xs.findIdxs q s) := by
  induction xs generalizing s with
  | nil => exact List.Sublist.slnil
  | cons x xs ih =>
      obtain ⟨hx, hxs⟩ := List.forall_mem_cons.1 h
      rw [List.findIdxs_cons, List.findIdxs_cons]
      cases hp : p x with
      | true =>
          rw [if_pos rfl, if_pos (hx hp)]
          exact (ih hxs (s + 1)).cons_cons s
      | false =>
          rw [if_neg Bool.false_ne_true]
          split
          · exact (ih hxs (s + 1)).cons s
          · exact ih hxs (s + 1)

theorem head?_extract_lastIndex {i : ℕ} (h : i < lines.length) :
    (lines.extract i (lastIndex lines i + 1)).head? = some lines[i] := by
  have hlast : i ≤ lastIndex lines i := le_lastIndex lines i
  rw [List.extract_eq_take_drop, List.head?_take, if_neg (by omega), List.head?_drop,
    List.getElem?_eq_getElem h]

theorem indented_headers_open_statements
    (h : ∀ line ∈ lines, (mysql.header? line).isSome = true → IsIndentedHeader line) :
    ((headerIndices mysql lines).map fun i =>
        lines.extract i (lastIndex lines i + 1)).Sublist (statements lines) ∧
      ((statements lines).filterMap (Table.ofLines? mysql)).map Table.name =
        lines.filterMap mysql.header? ∧
      (∀ i ∈ headerIndices mysql lines, ∃ t,
        Table.ofLines? mysql (lines.extract i (lastIndex lines i + 1)) = some t ∧
          t ∈ (statements lines).filterMap (Table.ofLines? mysql) ∧
          lines[i]?.bind mysql.header? = some t.name ∧
          t.columns.map Column.unmarked =
            (lines.extract i (lastIndex lines i + 1)).filterMap mysql.column?) ∧
      ∀ group ∈ statements lines, ∀ line ∈ group.tail, mysql.header? line = none := by
  have hstart : ∀ line ∈ lines, (mysql.header? line).isSome = true → IsStart line := by
    intro line hline hheader
    exact isStart_of_isIndentedHeader (h line hline hheader)
  have hsub : ((headerIndices mysql lines).map fun i =>
      lines.extract i (lastIndex lines i + 1)).Sublist (statements lines) := by
    rw [statements_eq_map_extract]
    refine (findIdxs_sublist ?_ 0).map _
    intro line hline hheader
    exact decide_eq_true (hstart line hline hheader)
  refine ⟨hsub, map_name_tables_eq_iff.2 hstart, ?_, ?_⟩
  · intro i hi
    obtain ⟨hlt, hheader⟩ := List.mem_findIdxs_iff_exists_getElem_pos.1 hi
    obtain ⟨name, hname⟩ := Option.isSome_iff_exists.1 hheader
    obtain ⟨t, ht, rfl⟩ : ∃ t,
        Table.ofLines? mysql (lines.extract i (lastIndex lines i + 1)) = some t ∧
          t.name = name := by
      rw [← Option.map_eq_some_iff, Table.map_name_ofLines?, head?_extract_lastIndex hlt,
        Option.bind_some, hname]
    refine ⟨t, ht, ?_, ?_, ?_⟩
    · exact List.mem_filterMap.2 ⟨_, hsub.mem (List.mem_map_of_mem hi), ht⟩
    · rw [List.getElem?_eq_getElem hlt, Option.bind_some, hname]
    · rw [Table.map_unmarked_columns ht, Table.map_unmarked_filterMap_column?]
  · intro group hgroup line hline
    obtain ⟨first, rest, rfl, _, hrest, _⟩ := shape_of_mem_statements hgroup
    rw [Option.eq_none_iff_forall_not_mem]
    intro name hname
    have hmem : line ∈ lines :=
      mem_of_mem_statements hgroup line (List.mem_cons_of_mem _ hline)
    exact hrest line hline (hstart line hmem (Option.isSome_of_eq_some hname))

def indentedLines : List String := [
  "  CREATE TABLE \x60rooms\x60 (",
  "  \x60id\x60 int(11) NOT NULL",
  "CREATE TABLE IF NOT EXISTS \x60guests\x60 (",
  "  \x60room\x60 int(11)",
  ") ENGINE=InnoDB;",
  "create table \x60keys\x60 (",
  "  \x60id\x60 int(11)",
  ");"]

theorem isIndentedHeader_of_mem_indentedLines : ∀ line ∈ indentedLines,
    (mysql.header? line).isSome = true → IsIndentedHeader line := by
  have hcheck : ∀ line ∈ indentedLines, (mysql.header? line).isSome = true →
      (headerHere (skipBlanks line.toList)).isSome = true := by decide +kernel
  intro line hline hheader
  obtain ⟨n, hn⟩ := Option.isSome_iff_exists.1 (hcheck line hline hheader)
  exact ⟨n, headerHere_eq_some_iff.1 hn⟩

theorem indentedLines_open_statements :
    (∀ line ∈ indentedLines, (mysql.header? line).isSome = true → IsIndentedHeader line) ∧
      [indentedLines.extract 0 2, indentedLines.extract 2 5].Sublist (statements indentedLines) ∧
      ((statements indentedLines).filterMap (Table.ofLines? mysql)).map Table.name =
        ["rooms", "guests"] ∧
      ∀ group ∈ statements indentedLines, ∀ line ∈ group.tail, mysql.header? line = none := by
  have hindices : headerIndices mysql indentedLines = [0, 2] := by decide +kernel
  have hlast : lastIndex indentedLines 0 = 1 ∧ lastIndex indentedLines 2 = 4 := by decide +kernel
  have hnames : indentedLines.filterMap mysql.header? = ["rooms", "guests"] := by decide +kernel
  obtain ⟨hsub, htables, _, htails⟩ :=
    indented_headers_open_statements isIndentedHeader_of_mem_indentedLines
  rw [hindices, List.map_cons, List.map_cons, List.map_nil, hlast.1, hlast.2] at hsub
  exact ⟨isIndentedHeader_of_mem_indentedLines, hsub, htables.trans hnames, htails⟩

-- The header stands in a comment that the server runs.
def conditionalLines : List String := [
  "/*!50001 CREATE TABLE \x60guests\x60 (",
  "  \x60id\x60 int",
  ")"]

theorem conditionalLines_lose_header :
    conditionalLines.filterMap mysql.header? = ["guests"] ∧
      statements conditionalLines = [] ∧
      statements ("CREATE TABLE \x60rooms\x60 (" :: conditionalLines) =
        ["CREATE TABLE \x60rooms\x60 (" :: conditionalLines] := by
  decide +kernel

end SchemaDiagram

import SchemaDiagram.CommandLine.Generate
import SchemaDiagram.Proofs.Diagram.Layout

namespace SchemaDiagram

open Text CommandLine

theorem isDrawn_iff (showOrphans : Bool) (tables : List Table) (r : Reference) :
    isDrawn showOrphans tables r = true ↔
      showOrphans = true ∨ ∃ t ∈ tables, r.key.referencedTable = some t.name := by
  rw [isDrawn, Bool.or_eq_true, or_comm, Option.any_eq_true]
  refine or_congr_right ⟨?_, ?_⟩
  · rintro ⟨name, hname, hany⟩
    obtain ⟨t, ht, heq⟩ := List.any_eq_true.1 hany
    exact ⟨t, ht, by rw [hname, eq_of_beq heq]⟩
  · rintro ⟨t, ht, hname⟩
    exact ⟨t.name, hname, List.any_eq_true.2 ⟨t, ht, beq_self_eq_true t.name⟩⟩

theorem map_key_references (tables : List Table) :
    (references tables).map (·.key) = tables.flatMap (·.foreignKeys) := by
  simp only [references, List.map_flatMap, List.map_map, Function.comp_def, List.map_id']

theorem length_references (tables : List Table) :
    (references tables).length = (tables.flatMap (·.foreignKeys)).length := by
  rw [← map_key_references, List.length_map]

namespace Settings

theorem relationshipCount_eq_length_drawn (s : Settings) (tables : List Table) :
    s.relationshipCount tables = (drawn s.showOrphans tables).length := by
  have hshown : (fun r : Reference => r.key.isShown s.showOrphans (nameIndex tables)) =
      isDrawn s.showOrphans tables :=
    funext (isShown_nameIndex s.showOrphans tables)
  rw [relationshipCount, ← map_key_references, List.countP_map, Function.comp_def, hshown,
    List.countP_eq_length_filter, drawn]

theorem relationshipCount_add_length_omissions (s : Settings) (tables : List Table) :
    s.relationshipCount tables + (s.omissions tables).length =
      (tables.flatMap (·.foreignKeys)).length := by
  rw [relationshipCount_eq_length_drawn, omissions_eq_map, List.length_map,
    length_drawn_add_length_omitted, length_references]

theorem tail_summaryNotices (s : Settings) (tables : List Table) :
    (summaryNotices tables (s.relationshipCount tables)).tail =
      if s.omissions tables = [] then []
      else [.notice (omittedMessage (s.omissions tables).length)] := by
  have hsum := relationshipCount_add_length_omissions s tables
  rw [summaryNotices, List.tail_cons]
  cases h : s.omissions tables with
  | nil =>
      rw [h, List.length_nil] at hsum
      rw [if_neg (by omega), if_pos rfl]
  | cons e es =>
      rw [h, List.length_cons] at hsum
      have hsub : (tables.flatMap (·.foreignKeys)).length - s.relationshipCount tables =
          (e :: es).length := by
        rw [List.length_cons]
        omega
      rw [if_pos (by omega), hsub, if_neg (List.cons_ne_nil e es)]

theorem describe_accounts_for_foreign_keys (s : Settings) (tables : List Table) :
    s.describe tables =
        unlines (["@startuml", "Title: " ++ s.title] ++ tables.flatMap Table.block
          ++ ((references tables).filter (isDrawn s.showOrphans tables)).map (fun r =>
            r.table ++ "::" ++ r.key.column.getD "null" ++ " -- "
              ++ r.key.referencedTable.getD "null" ++ "::" ++ r.key.referencedColumn.getD "null")
          ++ ["", "@enduml"]) ∧
      (∀ r, isDrawn s.showOrphans tables r = true ↔
        s.showOrphans = true ∨ ∃ t ∈ tables, r.key.referencedTable = some t.name) ∧
      s.omissions tables =
        ((references tables).filter (fun r => !isDrawn s.showOrphans tables r)).map
          .omittedRelationship ∧
      s.relationshipCount tables =
        ((references tables).filter (isDrawn s.showOrphans tables)).length ∧
      s.relationshipCount tables + (s.omissions tables).length =
        (tables.flatMap (·.foreignKeys)).length ∧
      (summaryNotices tables (s.relationshipCount tables)).tail =
        (if s.omissions tables = [] then []
          else [.notice (omittedMessage (s.omissions tables).length)]) := by
  refine ⟨?_, isDrawn_iff s.showOrphans tables, ?_, ?_, ?_, ?_⟩
  · exact describe_eq_unlines s tables
  · exact omissions_eq_map s tables
  · exact relationshipCount_eq_length_drawn s tables
  · exact relationshipCount_add_length_omissions s tables
  · exact tail_summaryNotices s tables

end Settings

end SchemaDiagram

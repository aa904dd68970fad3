import SchemaDiagram.Diagram.Production
import SchemaDiagram.Proofs.Text.Lines

namespace SchemaDiagram

open Text

namespace Table

def blockBody (t : Table) : List String :=
  match t.columns with
  | [] => [""]
  | columns => columns.map Column.fieldLine

def block (t : Table) : List String := t.blockOpening :: t.blockBody ++ ["\x7d"]

theorem intercalate_fieldLines (t : Table) :
    "\n".intercalate (t.columns.map Column.fieldLine) ++ "\n" = unlines t.blockBody := by
  cases h : t.columns with
  | nil => simp [blockBody, h, unlines_cons]
  | cons c cs =>
      have hne : (c :: cs).map Column.fieldLine ≠ [] := by simp
      rw [← unlines_eq_intercalate hne]
      simp only [blockBody, h]

theorem blockText_eq_unlines (t : Table) : t.blockText = unlines t.block := by
  have hend : unlines ["\x7d"] = "\x7d\n" := by decide
  rw [block, List.cons_append, unlines_cons, unlines_append, hend, ← intercalate_fieldLines]
  simp only [blockText, String.append_assoc]

end Table

namespace Draft

def Adds (step : Draft → Draft) (text : String) (leftOut : List Reference) : Prop :=
  ∀ d, step d = { text := d.text ++ text, leftOut := d.leftOut ++ leftOut }

theorem adds_write (text : String) : Adds (·.write text) text [] := by
  intro d
  simp only [write, List.append_nil]

theorem adds_leaveOut (r : Reference) : Adds (·.leaveOut r) "" [r] := by
  intro d
  simp only [leaveOut, String.append_empty]

theorem Adds.andThen {f g : Draft → Draft} {a b : String} {as bs : List Reference}
    (hf : Adds f a as) (hg : Adds g b bs) : Adds (fun d => g (f d)) (a ++ b) (as ++ bs) := by
  intro d
  change g (f d) = _
  rw [hf d, hg]
  simp only [String.append_assoc, List.append_assoc]

theorem adds_foldl {α : Type} {step : Draft → α → Draft} {text : α → String}
    {leftOut : α → List Reference} (h : ∀ a, Adds (step · a) (text a) (leftOut a)) (xs : List α) :
    Adds (xs.foldl step) (String.join (xs.map text)) (xs.flatMap leftOut) := by
  induction xs with
  | nil => intro d; simp
  | cons x xs ih =>
      rw [List.map_cons, String.join_cons, List.flatMap_cons]
      exact (h x).andThen ih

def Links (showOrphans : Bool) (tables : List Table) (step : Draft → Draft)
    (rs : List Reference) : Prop :=
  Adds step (unlines ((rs.filter (isDrawn showOrphans tables)).map Reference.line))
    (rs.filter fun r => !isDrawn showOrphans tables r)

variable (showOrphans : Bool) (tables : List Table)

theorem links_foldl {α : Type} {step : Draft → α → Draft} {refs : α → List Reference}
    (h : ∀ a, Links showOrphans tables (step · a) (refs a)) (xs : List α) :
    Links showOrphans tables (xs.foldl step) (xs.flatMap refs) := by
  have hadds := adds_foldl h xs
  rw [join_map_unlines, ← List.map_flatMap, ← List.filter_flatMap, ← List.filter_flatMap] at hadds
  exact hadds

theorem links_addKey (t : Table) (k : ForeignKey) :
    Links showOrphans tables (addKey showOrphans (nameIndex tables) t · k) [⟨t.name, k⟩] := by
  have hshown := isShown_nameIndex showOrphans tables ⟨t.name, k⟩
  cases h : isDrawn showOrphans tables ⟨t.name, k⟩ with
  | true =>
      have hadds := (adds_write (Reference.line ⟨t.name, k⟩)).andThen (adds_write "\n")
      rw [h] at hshown
      simpa [Links, addKey, hshown, h, unlines_cons] using hadds
  | false =>
      have hadds := adds_leaveOut ⟨t.name, k⟩
      rw [h] at hshown
      simpa [Links, addKey, hshown, h] using hadds

theorem links_addKeys (t : Table) :
    Links showOrphans tables (addKeys showOrphans (nameIndex tables) · t)
      (t.foreignKeys.map fun k => { table := t.name, key := k }) := by
  rw [List.map_eq_flatMap]
  exact links_foldl showOrphans tables (links_addKey showOrphans tables t) t.foreignKeys

theorem links_tables :
    Links showOrphans tables (tables.foldl (addKeys showOrphans (nameIndex tables)))
      (references tables) :=
  links_foldl showOrphans tables (links_addKeys showOrphans tables) tables

theorem adds_addBlock (t : Table) : Adds (addBlock · t) (unlines t.block) [] := by
  rw [← Table.blockText_eq_unlines]
  exact adds_write t.blockText

theorem adds_blocks : Adds (tables.foldl addBlock) (unlines (tables.flatMap Table.block)) [] := by
  have hadds := adds_foldl adds_addBlock tables
  rw [join_map_unlines, List.flatMap_eq_nil_iff.2 fun _ _ => rfl] at hadds
  exact hadds

end Draft

def diagramLines (title : String) (showOrphans : Bool) (tables : List Table) : List String :=
  ["@startuml", "Title: " ++ title] ++ tables.flatMap Table.block
    ++ (drawn showOrphans tables).map Reference.line ++ ["", "@enduml"]

theorem Draft.ofTables_eq (title : String) (showOrphans : Bool) (tables : List Table) :
    Draft.ofTables title showOrphans tables =
      { text := unlines (diagramLines title showOrphans tables)
        leftOut := omitted showOrphans tables } := by
  have hopen := (adds_write "@startuml\n").andThen (adds_write ("Title: " ++ title ++ "\n"))
  have hbody := (adds_blocks tables).andThen (links_tables showOrphans tables)
  have hclose := (adds_write "\n").andThen (adds_write "@enduml\n")
  have hall := ((hopen.andThen hbody).andThen hclose) {}
  refine hall.trans ?_
  simp [diagramLines, unlines_append, unlines_cons, drawn, omitted, String.append_assoc]

namespace Settings

theorem describe_eq_unlines (s : Settings) (tables : List Table) :
    s.describe tables = unlines (diagramLines s.title s.showOrphans tables) := by
  rw [describe, draft, Draft.ofTables_eq]

theorem omissions_eq_map (s : Settings) (tables : List Table) :
    s.omissions tables = (omitted s.showOrphans tables).map .omittedRelationship := by
  rw [omissions, draft, Draft.ofTables_eq, Draft.omissions]

end Settings

end SchemaDiagram

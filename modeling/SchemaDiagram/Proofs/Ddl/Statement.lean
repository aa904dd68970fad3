import SchemaDiagram.Ddl.Statement
import SchemaDiagram.Proofs.Ddl.LineKind

namespace SchemaDiagram.Ddl

open Text

def Continues (line : String) : Prop :=
  startsStatement line = false ∧ closesStatement line = false

theorem afterAnyCase_append_eq_none {w : String} {o : List Char}
    (hw : ¬ w.toList <+: o.map Char.toUpper) (ho : ¬ o.map Char.toUpper <+: w.toList)
    (r : List Char) : afterAnyCase w (o ++ r) = none := by
  rw [afterAnyCase, if_neg]
  intro heq
  have hprefix : w.toList <+: o.map Char.toUpper ++ r.map Char.toUpper := by
    rw [← heq, ← List.map_append, List.map_take]
    exact List.take_prefix w.length _
  rcases List.prefix_or_prefix_of_prefix hprefix (List.prefix_append _ _) with h | h
  · exact hw h
  · exact ho h

theorem afterAnyCase_append {w : String} (hw : w.toList.map Char.toUpper = w.toList)
    (r : List Char) : afterAnyCase w (w.toList ++ r) = some r := by
  rw [afterAnyCase, ← String.length_toList, List.take_left, List.drop_left, if_pos hw]

theorem startsStatement_of_words {line : String} {r : List Char} (hr : atWordEnd r = true)
    (h : line.toList = "CREATE".toList ++ (" ".toList ++ ("TABLE".toList ++ r))) :
    startsStatement line = true := by
  have hword : Stops isBlank ("TABLE".toList ++ r) :=
    stops_toList_append (c := 'T') (by decide) (by decide) r
  have hline : Stops isBlank line.toList := by
    rw [h]
    exact stops_toList_append (c := 'C') (by decide) (by decide) _
  have hcreate : afterAnyCase "CREATE" line.toList = some (' ' :: ("TABLE".toList ++ r)) := by
    rw [h]
    exact afterAnyCase_append (by decide) _
  have htable : afterAnyCase "TABLE" ("TABLE".toList ++ r) = some r :=
    afterAnyCase_append (by decide) r
  have hblank : isBlank ' ' = true := by decide
  rw [startsStatement, skipBlanks_of_stops hline, hcreate]
  simp only [hblank, skipBlanks_of_stops hword, htable, hr, Bool.and_self]

theorem startsStatement_eq_false {line : String}
    (h : afterAnyCase "CREATE" (skipBlanks line.toList) = none) : startsStatement line = false := by
  rw [startsStatement, h]

theorem continues_of_opens {k : LineKind} {line : String} (h : k.Opens line.toList) :
    Continues line := by
  obtain ⟨r, hr⟩ := h
  constructor
  · have hnone : afterAnyCase "CREATE" (k.opening ++ r) = none := by
      apply afterAnyCase_append_eq_none
      · cases k <;> decide
      · cases k <;> decide
    apply startsStatement_eq_false
    rw [← hr, hnone]
  · rw [closesStatement, ← hr]
    cases k <;> rfl

theorem flatten_statementsFrom_sublist (opened : Option (List String)) (ls : List String) :
    (statementsFrom opened ls).flatten.Sublist (opened.toList.flatten ++ ls) := by
  fun_induction statementsFrom opened ls with
  | case1 opened => simp
  | case2 opened line rest _ ih =>
      rw [List.flatten_append]
      exact List.Sublist.append_left (by simpa using ih) _
  | case3 line rest _ ih => exact ih.cons line
  | case4 line rest _ group _ ih =>
      rw [List.flatten_cons, Option.toList_some, List.flatten_singleton, List.append_assoc]
      exact List.Sublist.append_left (ih.cons_cons line) group
  | case5 line rest _ group _ ih => simpa using ih

theorem mem_of_mem_statements {ls group : List String} (h : group ∈ statements ls) :
    ∀ l ∈ group, l ∈ ls :=
  fun _ hl => (flatten_statementsFrom_sublist none ls).mem (List.mem_flatten_of_mem h hl)

end SchemaDiagram.Ddl

import SchemaDiagram.Source
import SchemaDiagram.Proofs.Assembly.Definition
import SchemaDiagram.Proofs.Ddl.OneLine

namespace SchemaDiagram

open Text Ddl

namespace Ddl

theorem isLine_tickedTail {ns : List String} (h : ∀ n ∈ ns, IsMemberName n) :
    IsLine (tickedTail ns) := by
  induction ns with
  | nil => exact isLine_nil
  | cons n ns ih =>
      obtain ⟨hn, hns⟩ := List.forall_mem_cons.1 h
      have hfirst : IsLine (',' :: ticked n.toList) :=
        isLine_append (s := [',']) (by decide) (isLine_ticked hn.2.2)
      exact isLine_append hfirst (ih hns)

theorem isLine_tickedList {ns : List String} (h : ∀ n ∈ ns, IsMemberName n) :
    IsLine (tickedList ns) := by
  cases ns with
  | nil => exact isLine_ticked fun _ hc => nomatch hc
  | cons n ns =>
      obtain ⟨hn, hns⟩ := List.forall_mem_cons.1 h
      exact isLine_append (isLine_ticked hn.2.2) (isLine_tickedTail hns)

end Ddl

namespace Clause

theorem isLine_line {x : Clause} (h : x.WellFormed) (hfits : ∀ c ∈ x.column?, c.FitsLine)
    (more : Bool) : IsLine (x.line more).toList := by
  rw [line, String.toList_ofList]
  refine isLine_append (by decide) (isLine_append ?_ (isLine_flagText (by decide) more))
  cases x with
  | column c => exact Column.isLine_declaration h (hfits c.unmarked rfl)
  | primaryKey k =>
      refine isLine_append (by decide) (isLine_append (isLine_tickedList h.columns) (by decide))
  | uniqueKey k =>
      refine isLine_append (by decide) (isLine_append (isLine_ticked h.name.2) ?_)
      exact isLine_append (by decide) (isLine_append (isLine_tickedList h.columns) (by decide))
  | foreignKey k =>
      obtain ⟨_, _, _⟩ := k
      obtain ⟨⟨c, rfl, hc⟩, ⟨t, rfl, ht⟩, ⟨s, rfl, hs⟩⟩ := h
      refine isLine_append (by decide) (isLine_append (isLine_ticked hc.2) ?_)
      refine isLine_append (by decide) (isLine_append (isLine_ticked hc.2) ?_)
      refine isLine_append (by decide) (isLine_append (isLine_ticked ht.2) ?_)
      exact isLine_append (by decide) (isLine_append (isLine_ticked hs.2) (by decide))

theorem isLine_of_mem_lines {xs : List Clause} (h : ∀ x ∈ xs, ∀ more, IsLine (x.line more).toList) :
    ∀ l ∈ lines xs, IsLine l.toList := by
  induction xs with
  | nil => exact fun _ hl => nomatch hl
  | cons x xs ih =>
      obtain ⟨hx, hxs⟩ := List.forall_mem_cons.1 h
      exact List.forall_mem_cons.2 ⟨hx _, ih hxs⟩

end Clause

namespace Table

variable {t : Table} {ts : List Table} {options : String}

theorem isLine_of_mem_definition (h : t.WellFormed) (hfits : ∀ c ∈ t.columns, c.FitsLine)
    (hclosing : IsLine (closingLine options).toList) :
    ∀ l ∈ t.definition options, IsLine l.toList := by
  have hheader : IsLine t.headerLine.toList := by
    rw [toList_headerLine]
    exact isLine_append (by decide) (isLine_append (isLine_ticked h.name.2) (by decide))
  have hcolumn : ∀ x ∈ t.clauses, ∀ c ∈ x.column?, c.FitsLine := by
    intro x hx c hc
    have hmem : c ∈ t.clauses.filterMap Clause.column? := List.mem_filterMap.2 ⟨x, hx, hc⟩
    rw [filterMap_column?_clauses] at hmem
    obtain ⟨d, hd, rfl⟩ := List.mem_map.1 hmem
    exact hfits d hd
  refine List.forall_mem_cons.2 ⟨hheader, ?_⟩
  refine List.forall_mem_append.2 ⟨?_, List.forall_mem_singleton.2 hclosing⟩
  exact Clause.isLine_of_mem_lines fun x hx => Clause.isLine_line (h.clauses x hx) (hcolumn x hx)

def dumpText (options : String) (ts : List Table) : String :=
  unlines (ts.flatMap (definition options))

theorem textLines_dumpText (h : ∀ t ∈ ts, t.WellFormed)
    (hfits : ∀ t ∈ ts, ∀ c ∈ t.columns, c.FitsLine)
    (hclosing : IsLine (closingLine options).toList) :
    Source.textLines (dumpText options ts) = ts.flatMap (definition options) := by
  rw [Source.textLines, dumpText, lines_toList_unlines]
  · simp only [List.map_map, Function.comp_def, String.ofList_toList, List.map_id']
  · intro l hl
    obtain ⟨t, ht, hl⟩ := List.mem_flatMap.1 hl
    exact isLine_of_mem_definition (h t ht) (hfits t ht) hclosing l hl

theorem filterMap_ofLines?_map_definition (h : ∀ t ∈ ts, t.WellFormed) (options : String) :
    (ts.map (definition options)).filterMap (ofLines? mysql) = ts := by
  induction ts with
  | nil => rfl
  | cons t ts ih =>
      obtain ⟨ht, hts⟩ := List.forall_mem_cons.1 h
      rw [List.map_cons, List.filterMap_cons_some (ofLines?_definition ht options), ih hts]

theorem fitsLine_of_mem_statements {text : String} {group : List String}
    (hgroup : group ∈ statements (Source.textLines text)) (h : ofLines? mysql group = some t) :
    ∀ c ∈ t.columns, c.FitsLine := by
  intro c hc
  rw [(ofLines?_eq_some_iff.1 h).2.1] at hc
  obtain ⟨d, hd, rfl⟩ := List.mem_map.1 hc
  obtain ⟨line, hline, hread⟩ := List.mem_filterMap.1 hd
  obtain ⟨l, hl, rfl⟩ := List.mem_map.1 (mem_of_mem_statements hgroup line hline)
  refine Column.fitsLine_of_column? (c := d) hread ?_
  rw [String.toList_ofList]
  exact lineFeed_not_mem_of_mem_lines l hl

theorem filterMap_ofLines?_dumpText_iff (h : ∀ t ∈ ts, t.WellFormed)
    (hclosing : IsLine (closingLine options).toList) :
    (statements (Source.textLines (dumpText options ts))).filterMap (ofLines? mysql) = ts ↔
      ∀ t ∈ ts, ∀ c ∈ t.columns, c.FitsLine := by
  constructor
  -- A table that is read at all has no line feed in it, however the text was made.
  · intro heq t ht
    rw [← heq] at ht
    obtain ⟨group, hgroup, hread⟩ := List.mem_filterMap.1 ht
    exact fitsLine_of_mem_statements hgroup hread
  · intro hfits
    rw [textLines_dumpText h hfits hclosing, statements_flatMap_definition,
      filterMap_ofLines?_map_definition h]

theorem ofLines?_definition_round_trip (options : String) :
    (∀ lines t, ofLines? mysql lines = some t → t.WellFormed) ∧
      (∀ t : Table, t.WellFormed → ofLines? mysql (t.definition options) = some t) ∧
      (∀ (t : Table) rest,
        statements (t.definition options ++ rest) = t.definition options :: statements rest) ∧
      (∀ ts : List Table,
        statements (ts.flatMap (definition options)) = ts.map (definition options)) ∧
      ∀ ts, (∀ t ∈ ts, t.WellFormed) → IsLine (closingLine options).toList →
        ((∀ t ∈ ts, ∀ c ∈ t.columns, c.FitsLine) →
          statements (Source.textLines (dumpText options ts)) = ts.map (definition options)) ∧
        ((statements (Source.textLines (dumpText options ts))).filterMap (ofLines? mysql) = ts ↔
          ∀ t ∈ ts, ∀ c ∈ t.columns, c.FitsLine) := by
  refine ⟨fun _ _ => wellFormed_of_ofLines?, fun _ h => ofLines?_definition h options,
    fun t rest => statements_definition_append t options rest,
    statements_flatMap_definition options, ?_⟩
  intro ts h hclosing
  refine ⟨?_, filterMap_ofLines?_dumpText_iff h hclosing⟩
  intro hfits
  rw [textLines_dumpText h hfits hclosing, statements_flatMap_definition]

def orderItems : Table where
  name := "order_items"
  columns := [
    { name := "order_id", type := some "int", scale := some "11", notNull := true
      primary := true, foreign := true },
    { name := "line-no", type := some "int", notNull := true, autoIncrement := true
      primary := true },
    { name := "price", type := some "decimal", scale := some "10,2"
      defaultText := some "'it''s ), free'" }]
  foreignKeys := [{
    column := some "order_id", referencedTable := some "orders", referencedColumn := some "id" }]
  primaryKeys := [{ columns := ["order_id", "line-no"] }]
  uniqueKeys := [{ name := "price", columns := ["price"] }]

theorem orderItems_round_trip :
    ofLines? mysql (orderItems.definition " ENGINE=InnoDB") = some orderItems ∧
      orderItems.WellFormed ∧
      IsLine (closingLine " ENGINE=InnoDB").toList ∧
      (∀ c ∈ orderItems.columns, c.FitsLine) ∧
      statements (Source.textLines (dumpText " ENGINE=InnoDB" [orderItems])) =
        [orderItems.definition " ENGINE=InnoDB"] ∧
      (statements (Source.textLines (dumpText " ENGINE=InnoDB" [orderItems]))).filterMap
        (ofLines? mysql) = [orderItems] := by
  have hread : ofLines? mysql (orderItems.definition " ENGINE=InnoDB") = some orderItems := by
    decide +kernel
  have hclosing : IsLine (closingLine " ENGINE=InnoDB").toList := by decide +kernel
  have hfits : ∀ c ∈ orderItems.columns, c.FitsLine := by decide +kernel
  obtain ⟨hformed, hdefinition, _, _, htext⟩ := ofLines?_definition_round_trip " ENGINE=InnoDB"
  have h := hformed _ _ hread
  have hall : ∀ t ∈ [orderItems], t.WellFormed := List.forall_mem_singleton.2 h
  have hallFit : ∀ t ∈ [orderItems], ∀ c ∈ t.columns, c.FitsLine :=
    List.forall_mem_singleton.2 hfits
  obtain ⟨hgroups, htables⟩ := htext [orderItems] hall hclosing
  exact ⟨hdefinition orderItems h, h, hclosing, hfits, hgroups hallFit, htables.2 hallFit⟩

end Table

end SchemaDiagram

import SchemaDiagram.Proofs.Assembly.WellFormed
import SchemaDiagram.Proofs.Ddl.OneLine
import SchemaDiagram.Proofs.Diagram.Layout

namespace SchemaDiagram

open Text Ddl

theorem map_eq_map_of_forall {α β γ : Type} {f : α → β} {g : α → γ} {xs ys : List α}
    (hfg : ∀ x ∈ xs, ∀ y ∈ ys, f x = f y → g x = g y) (h : xs.map f = ys.map f) :
    xs.map g = ys.map g := by
  induction xs generalizing ys with
  | nil =>
      rw [List.map_nil, eq_comm, List.map_eq_nil_iff] at h
      rw [h]
  | cons x xs ih =>
      cases ys with
      | nil => cases h
      | cons y ys =>
          obtain ⟨hhead, htail⟩ := List.cons.inj h
          obtain ⟨hx, hxs⟩ := List.forall_mem_cons.1 hfg
          rw [List.map_cons, List.map_cons, hx y List.mem_cons_self hhead,
            ih (fun z hz w hw => hxs z hz w (List.mem_cons_of_mem y hw)) htail]

namespace Ddl

theorem typeKeyword_inj {t u : String} {r s : List Char} (ht : t ∈ typeKeywords)
    (hu : u ∈ typeKeywords) (hr : Stops (· == 't') r) (hs : Stops (· == 't') s)
    (h : t.toList ++ r = u.toList ++ s) : t = u ∧ r = s := by
  have hread := typeKeyword_complete ht hr
  rw [h, typeKeyword_complete hu hs] at hread
  obtain ⟨rfl, rfl⟩ := Prod.mk.inj (Option.some.inj hread)
  exact ⟨rfl, rfl⟩

theorem optionalScale_inj {o o' : Option String} {r s : List Char}
    (ho : ∀ x ∈ o, IsScaleText x.toList) (ho' : ∀ x ∈ o', IsScaleText x.toList)
    (hr : Stops (· == '(') r) (hs : Stops (· == '(') s)
    (h : optionalText "(" o ")" ++ r = optionalText "(" o' ")" ++ s) : o = o' ∧ r = s := by
  have hread := optionalPart_scale ho hr
  rw [h, optionalPart_scale ho' hs] at hread
  obtain ⟨rfl, rfl⟩ := Prod.mk.inj hread
  exact ⟨rfl, rfl⟩

end Ddl

namespace Column

def shown (c : Column) : String × Option String × Option String × Bool × Bool :=
  (c.name, c.type, c.scale, c.foreign, c.primary)

def marks (foreign primary : Bool) : List Char :=
  flagText " <<FK>>" foreign ++ flagText " <<PK>>" primary

theorem marks_inj : ∀ {f p f' p' : Bool}, marks f p = marks f' p' → f = f' ∧ p = p' := by
  decide

theorem stops_marks {d : Char} (hd : (' ' == d) = false) (f p : Bool) :
    Stops (· == d) (marks f p) := by
  have hword (s : List Char) : Stops (· == d) (' ' :: s) := stops_cons (p := (· == d)) hd s
  exact stops_append (stops_flagText (hword _) f) (stops_flagText (hword _) p)

theorem toList_typeText {c : Column} {t : String} (h : c.type = some t) :
    c.typeText.toList = " ".toList ++ (t.toList ++ optionalText "(" c.scale ")") := by
  cases hscale : c.scale <;>
    simp only [typeText, h, hscale, String.toList_append, optionalText, List.append_assoc,
      List.append_nil]

theorem toList_fieldLine {c : Column} {t : String} (h : c.type = some t) :
    c.fieldLine.toList = "\t\x7bfield\x7d <b>".toList ++ (c.name.toList ++ ("</b>".toList
      ++ (" ".toList ++ (t.toList ++ (optionalText "(" c.scale ")"
        ++ marks c.foreign c.primary))))) := by
  have hflag (w : String) (b : Bool) : (if b then w else "").toList = flagText w b := by
    cases b <;> rfl
  unfold fieldLine marks
  simp only [String.toList_append, toList_typeText h, List.append_assoc, hflag]

theorem shown_eq_of_fieldLine_eq {c d : Column} (hc : c.WellFormed) (hd : d.WellFormed)
    (h : c.fieldLine = d.fieldLine) : c.shown = d.shown := by
  obtain ⟨t, ht, hct⟩ := hc.type
  obtain ⟨u, hu, hdu⟩ := hd.type
  have hend (s : List Char) : Stops isNameChar ("</b>".toList ++ s) :=
    stops_toList_append (c := '<') (by decide) (by decide) s
  have hscaled (o : Option String) (f p : Bool) :
      Stops (· == 't') (optionalText "(" o ")" ++ marks f p) :=
    stops_append (stops_optionalText (p := (· == 't')) (c := '(') (by decide) (by decide) o ")")
      (stops_marks (by decide) f p)
  have htext := congrArg String.toList h
  rw [toList_fieldLine hct, toList_fieldLine hdu, List.append_cancel_left_eq] at htext
  obtain ⟨hname, htext⟩ := append_inj_of_stops hc.name.2 hd.name.2 (hend _) (hend _) htext
  rw [List.append_cancel_left_eq, List.append_cancel_left_eq] at htext
  obtain ⟨htype, htext⟩ := typeKeyword_inj ht hu (hscaled _ _ _) (hscaled _ _ _) htext
  obtain ⟨hscale, htext⟩ := optionalScale_inj hc.scale hd.scale (stops_marks (by decide) _ _)
    (stops_marks (by decide) _ _) htext
  obtain ⟨hforeign, hprimary⟩ := marks_inj htext
  rw [shown, shown, String.toList_inj.1 hname, hct, hdu, htype, hscale, hforeign, hprimary]

theorem head?_fieldLine (c : Column) : c.fieldLine.toList.head? = some '\t' := by
  unfold fieldLine
  simp only [String.toList_append]
  rfl

theorem fieldLine_ne_empty (c : Column) : c.fieldLine ≠ "" := by
  intro h
  have hhead := c.head?_fieldLine
  rw [h] at hhead
  cases hhead

theorem isLine_fieldLine {c : Column} (h : c.WellFormed) : IsLine c.fieldLine.toList := by
  obtain ⟨t, ht, hct⟩ := h.type
  have hmarks : ∀ f p, IsLine (marks f p) := by decide
  rw [toList_fieldLine hct]
  refine isLine_append (by decide) ?_
  refine isLine_append (isLine_of_forall_isNameChar h.name.2) ?_
  refine isLine_append (by decide) (isLine_append (by decide) ?_)
  refine isLine_append (isLine_of_mem_typeKeywords t ht) ?_
  exact isLine_append h.isLine_optionalScale (hmarks _ _)

end Column

namespace Reference

structure WellFormed (r : Reference) : Prop where
  table : IsName r.table.toList
  key : r.key.WellFormed

theorem wellFormed_of_mem_drawn {showOrphans : Bool} {ts : List Table}
    (h : ∀ t ∈ ts, t.WellFormed) : ∀ r ∈ drawn showOrphans ts, r.WellFormed := by
  intro r hr
  obtain ⟨t, ht, hkey⟩ := List.mem_flatMap.1 (List.mem_filter.1 hr).1
  obtain ⟨k, hk, rfl⟩ := List.mem_map.1 hkey
  exact ⟨(h t ht).name, (h t ht).foreignKeys k hk⟩

theorem toList_line (r : Reference) :
    r.line.toList = r.table.toList ++ ("::".toList ++ (r.column.toList ++ (" -- ".toList
      ++ (r.referencedTable.toList ++ ("::".toList ++ r.referencedColumn.toList))))) := by
  simp only [line, String.toList_append, List.append_assoc]

theorem stops_colons (s : List Char) : Stops isNameChar ("::".toList ++ s) :=
  stops_toList_append (c := ':') (by decide) (by decide) s

theorem eq_of_line_eq {r s : Reference} (hr : r.WellFormed) (hs : s.WellFormed)
    (h : r.line = s.line) : r = s := by
  have hspace (u : List Char) : Stops isNameChar (" -- ".toList ++ u) :=
    stops_toList_append (c := ' ') (by decide) (by decide) u
  obtain ⟨a, _, _, _⟩ := r
  obtain ⟨b, _, _, _⟩ := s
  obtain ⟨ha, ⟨c, rfl, hc⟩, ⟨t, rfl, ht⟩, ⟨m, rfl, hm⟩⟩ := hr
  obtain ⟨hb, ⟨d, rfl, hd⟩, ⟨u, rfl, hu⟩, ⟨n, rfl, hn⟩⟩ := hs
  have htext := congrArg String.toList h
  rw [toList_line, toList_line] at htext
  obtain ⟨htable, htext⟩ := append_inj_of_stops ha.2 hb.2 (stops_colons _) (stops_colons _) htext
  rw [List.append_cancel_left_eq] at htext
  obtain ⟨hcolumn, htext⟩ := append_inj_of_stops hc.2 hd.2 (hspace _) (hspace _) htext
  rw [List.append_cancel_left_eq] at htext
  obtain ⟨hreferenced, htext⟩ := append_inj_of_stops ht.2 hu.2 (stops_colons _) (stops_colons _) htext
  rw [List.append_cancel_left_eq] at htext
  obtain rfl : a = b := String.toList_inj.1 htable
  obtain rfl : c = d := String.toList_inj.1 hcolumn
  obtain rfl : t = u := String.toList_inj.1 hreferenced
  obtain rfl : m = n := String.toList_inj.1 htext
  rfl

theorem isLine_line {r : Reference} (h : r.WellFormed) : IsLine r.line.toList := by
  obtain ⟨a, _, _, _⟩ := r
  obtain ⟨ha, ⟨c, rfl, hc⟩, ⟨t, rfl, ht⟩, ⟨m, rfl, hm⟩⟩ := h
  rw [toList_line]
  refine isLine_append (isLine_of_forall_isNameChar ha.2) (isLine_append (by decide) ?_)
  refine isLine_append (isLine_of_forall_isNameChar hc.2) (isLine_append (by decide) ?_)
  refine isLine_append (isLine_of_forall_isNameChar ht.2) (isLine_append (by decide) ?_)
  exact isLine_of_forall_isNameChar hm.2

end Reference

namespace Table

def shown (t : Table) : String × List (String × Option String × Option String × Bool × Bool) :=
  (t.name, t.columns.map Column.shown)

variable {t u : Table}

theorem toList_blockOpening (t : Table) :
    t.blockOpening.toList = "class ".toList ++ (t.name.toList
      ++ " << (T,#FFAAAA) >> \x7b".toList) := by
  simp only [blockOpening, String.toList_append, List.append_assoc]

theorem name_eq_of_blockOpening_eq (ht : t.WellFormed) (hu : u.WellFormed)
    (h : t.blockOpening = u.blockOpening) : t.name = u.name := by
  have hstop : Stops isNameChar " << (T,#FFAAAA) >> \x7b".toList :=
    stops_cons (by decide) _
  have htext := congrArg String.toList h
  rw [toList_blockOpening, toList_blockOpening, List.append_cancel_left_eq] at htext
  exact String.toList_inj.1 (append_inj_of_stops ht.name.2 hu.name.2 hstop hstop htext).1

theorem blockOpening_ne_line {r : Reference} (hr : r.WellFormed) (t : Table) :
    t.blockOpening ≠ r.line := by
  intro h
  have hwords : "class ".toList = "class".toList ++ " ".toList := rfl
  -- A table may be named "class", but its name ends before a colon and not before a space.
  have hclass : ∀ c ∈ "class".toList, isNameChar c = true := List.all_eq_true.1 (by decide)
  have hspace (s : List Char) : Stops isNameChar (" ".toList ++ s) :=
    stops_toList_append (c := ' ') (by decide) (by decide) s
  have htext := congrArg String.toList h
  rw [toList_blockOpening, Reference.toList_line, hwords, List.append_assoc] at htext
  obtain ⟨_, htext⟩ := append_inj_of_stops hclass hr.table.2 (hspace _)
    (Reference.stops_colons _) htext
  exact absurd (List.cons.inj htext).1 (by decide)

theorem filter_blockBody (t : Table) :
    t.blockBody.filter (· ≠ "") = t.columns.map Column.fieldLine := by
  unfold blockBody
  cases t.columns with
  | nil => rfl
  | cons c cs =>
      apply List.filter_eq_self.2
      intro l hl
      obtain ⟨d, _, rfl⟩ := List.mem_map.1 hl
      exact decide_eq_true d.fieldLine_ne_empty

theorem shown_eq_of_blockBody_eq (ht : t.WellFormed) (hu : u.WellFormed)
    (h : t.blockBody = u.blockBody) : t.columns.map Column.shown = u.columns.map Column.shown := by
  have hfields : t.columns.map Column.fieldLine = u.columns.map Column.fieldLine := by
    rw [← filter_blockBody, h, filter_blockBody]
  apply map_eq_map_of_forall ?_ hfields
  intro c hc d hd
  exact Column.shown_eq_of_fieldLine_eq (ht.columns c hc) (hu.columns d hd)

theorem mem_blockBody {t : Table} {l : String} (h : l ∈ t.blockBody) :
    l = "" ∨ ∃ c ∈ t.columns, c.fieldLine = l := by
  unfold blockBody at h
  cases htc : t.columns with
  | nil =>
      rw [htc] at h
      exact .inl (List.mem_singleton.1 h)
  | cons c cs =>
      rw [htc] at h
      exact .inr (List.mem_map.1 h)

theorem ne_blockEnd_of_mem_blockBody (t : Table) :
    ∀ l ∈ t.blockBody, decide (l ≠ "\x7d") = true := by
  intro l hl
  rw [decide_eq_true_eq]
  rintro rfl
  rcases mem_blockBody hl with heq | ⟨c, _, heq⟩
  · exact absurd heq (by decide)
  · have hhead := c.head?_fieldLine
    rw [heq] at hhead
    exact absurd hhead (by decide)

theorem block_append (t : Table) (ls : List String) :
    t.block ++ ls = t.blockOpening :: (t.blockBody ++ "\x7d" :: ls) := by
  simp only [block, List.cons_append, List.append_assoc, List.nil_append]

theorem shown_eq_of_block_append_eq {R S : List String} (ht : t.WellFormed) (hu : u.WellFormed)
    (h : t.block ++ R = u.block ++ S) : t.shown = u.shown ∧ R = S := by
  rw [block_append, block_append] at h
  obtain ⟨hopening, htext⟩ := List.cons.inj h
  have hstop (ls : List String) : Stops (fun l => decide (l ≠ "\x7d")) ("\x7d" :: ls) :=
    stops_cons (by decide) ls
  obtain ⟨hbody, hrest⟩ := append_inj_of_stops (ne_blockEnd_of_mem_blockBody t)
    (ne_blockEnd_of_mem_blockBody u) (hstop R) (hstop S) htext
  refine ⟨?_, (List.cons.inj hrest).2⟩
  rw [shown, shown, name_eq_of_blockOpening_eq ht hu hopening, shown_eq_of_blockBody_eq ht hu hbody]

theorem isLine_of_mem_block (h : t.WellFormed) : ∀ l ∈ t.block, IsLine l.toList := by
  have hopening : IsLine t.blockOpening.toList := by
    rw [toList_blockOpening]
    refine isLine_append (by decide) (isLine_append ?_ (by decide))
    exact isLine_of_forall_isNameChar h.name.2
  have hbody : ∀ l ∈ t.blockBody, IsLine l.toList := by
    intro l hl
    rcases mem_blockBody hl with rfl | ⟨c, hc, rfl⟩
    · decide
    · exact Column.isLine_fieldLine (h.columns c hc)
  refine List.forall_mem_append.2 ⟨List.forall_mem_cons.2 ⟨hopening, hbody⟩, ?_⟩
  exact List.forall_mem_singleton.2 (by decide)

theorem shown_eq_of_blocks_append_eq {ts us : List Table} {R S : List String}
    (hts : ∀ t ∈ ts, t.WellFormed) (hus : ∀ u ∈ us, u.WellFormed)
    (hR : ∀ t : Table, t.blockOpening ∉ R) (hS : ∀ u : Table, u.blockOpening ∉ S)
    (h : ts.flatMap block ++ R = us.flatMap block ++ S) :
    ts.map shown = us.map shown ∧ R = S := by
  induction ts generalizing us with
  | nil =>
      cases us with
      | nil => exact ⟨rfl, h⟩
      | cons u us =>
          rw [List.flatMap_nil, List.nil_append, List.flatMap_cons, List.append_assoc,
            block_append] at h
          -- The first further block would have to be one of the relationship lines.
          have hmem : u.blockOpening ∈ R := by
            rw [h]
            exact List.mem_cons_self
          exact absurd hmem (hR u)
  | cons t ts ih =>
      obtain ⟨ht, hts⟩ := List.forall_mem_cons.1 hts
      cases us with
      | nil =>
          rw [List.flatMap_nil, List.nil_append, List.flatMap_cons, List.append_assoc,
            block_append] at h
          have hmem : t.blockOpening ∈ S := by
            rw [← h]
            exact List.mem_cons_self
          exact absurd hmem (hS t)
      | cons u us =>
          obtain ⟨hu, hus⟩ := List.forall_mem_cons.1 hus
          rw [List.flatMap_cons, List.flatMap_cons, List.append_assoc, List.append_assoc] at h
          obtain ⟨hshown, hrest⟩ := shown_eq_of_block_append_eq ht hu h
          obtain ⟨hall, hlines⟩ := ih hts hus hrest
          exact ⟨by rw [List.map_cons, List.map_cons, hshown, hall], hlines⟩

end Table

namespace Settings

variable {ts us : List Table}

theorem blockOpening_not_mem_drawn {showOrphans : Bool} (h : ∀ t ∈ ts, t.WellFormed) (t : Table) :
    t.blockOpening ∉ (drawn showOrphans ts).map Reference.line := by
  intro hmem
  obtain ⟨r, hr, heq⟩ := List.mem_map.1 hmem
  exact Table.blockOpening_ne_line (Reference.wellFormed_of_mem_drawn h r hr) t heq.symm

theorem isLine_of_mem_body {showOrphans : Bool} (h : ∀ t ∈ ts, t.WellFormed) :
    ∀ l ∈ ts.flatMap Table.block ++ ((drawn showOrphans ts).map Reference.line ++ ["", "@enduml"]),
      IsLine l.toList := by
  refine List.forall_mem_append.2 ⟨?_, List.forall_mem_append.2 ⟨?_, by decide⟩⟩
  · intro l hl
    obtain ⟨t, ht, hl⟩ := List.mem_flatMap.1 hl
    exact Table.isLine_of_mem_block (h t ht) l hl
  · intro l hl
    obtain ⟨r, hr, rfl⟩ := List.mem_map.1 hl
    exact Reference.isLine_line (Reference.wellFormed_of_mem_drawn h r hr)

theorem shown_eq_of_describe_eq (s : Settings) (hts : ∀ t ∈ ts, t.WellFormed)
    (hus : ∀ u ∈ us, u.WellFormed) (h : s.describe ts = s.describe us) :
    ts.map Table.shown = us.map Table.shown ∧
      drawn s.showOrphans ts = drawn s.showOrphans us := by
  rw [describe_eq_unlines, describe_eq_unlines, diagramLines, diagramLines] at h
  rw [List.append_assoc, List.append_assoc, List.append_assoc, List.append_assoc, unlines_append,
    unlines_append ["@startuml", _], String.append_right_inj] at h
  have hlines := unlines_inj (isLine_of_mem_body hts) (isLine_of_mem_body hus) h
  rw [← List.append_assoc, ← List.append_assoc, List.append_cancel_right_eq] at hlines
  obtain ⟨hshown, hdrawn⟩ := Table.shown_eq_of_blocks_append_eq hts hus
    (blockOpening_not_mem_drawn hts) (blockOpening_not_mem_drawn hus) hlines
  refine ⟨hshown, ?_⟩
  have hrefs : ∀ r ∈ drawn s.showOrphans ts, ∀ q ∈ drawn s.showOrphans us,
      r.line = q.line → id r = id q := fun r hr q hq =>
    Reference.eq_of_line_eq (Reference.wellFormed_of_mem_drawn hts r hr)
      (Reference.wellFormed_of_mem_drawn hus q hq)
  have hids := map_eq_map_of_forall hrefs hdrawn
  rwa [List.map_id, List.map_id] at hids

theorem describe_loses_nothing_shown (s : Settings)
    (hts : ∀ t ∈ ts, ∃ lines, Table.ofLines? Ddl.mysql lines = some t)
    (hus : ∀ u ∈ us, ∃ lines, Table.ofLines? Ddl.mysql lines = some u)
    (h : s.describe ts = s.describe us) :
    ts.length = us.length ∧
      (ts.map fun t => (t.name, t.columns.map fun c =>
        (c.name, c.type, c.scale, c.foreign, c.primary))) =
      (us.map fun u => (u.name, u.columns.map fun c =>
        (c.name, c.type, c.scale, c.foreign, c.primary))) ∧
      drawn s.showOrphans ts = drawn s.showOrphans us := by
  have hformed {xs : List Table} (hxs : ∀ t ∈ xs, ∃ lines, Table.ofLines? Ddl.mysql lines = some t) :
      ∀ t ∈ xs, t.WellFormed := by
    intro t ht
    obtain ⟨lines, hlines⟩ := hxs t ht
    exact Table.wellFormed_of_ofLines? hlines
  obtain ⟨hshown, hdrawn⟩ := shown_eq_of_describe_eq s (hformed hts) (hformed hus) h
  have hlength : (ts.map Table.shown).length = (us.map Table.shown).length := by rw [hshown]
  rw [List.length_map, List.length_map] at hlength
  exact ⟨hlength, hshown, hdrawn⟩

def relaxedVisits : Table :=
  { Table.visits with columns := Table.visits.columns.map fun c =>
      { c with notNull := false, defaultText := if c.notNull then some "NULL" else none } }

theorem describe_visits_loses_nothing_shown :
    Table.ofLines? Ddl.mysql Table.visitLines = some Table.visits ∧
      Table.ofLines? Ddl.mysql (Table.visitLines.set 1 "  \x60day\x60 date DEFAULT NULL,") =
        some relaxedVisits ∧
      ({ showOrphans := true } : Settings).describe [Table.visits] =
        ({ showOrphans := true } : Settings).describe [relaxedVisits] ∧
      drawn true [Table.visits] = drawn true [relaxedVisits] := by
  have hfirst : Table.ofLines? Ddl.mysql Table.visitLines = some Table.visits := by decide +kernel
  have hsecond : Table.ofLines? Ddl.mysql
      (Table.visitLines.set 1 "  \x60day\x60 date DEFAULT NULL,") = some relaxedVisits := by
    decide +kernel
  have hsame : ({ showOrphans := true } : Settings).describe [Table.visits] =
      ({ showOrphans := true } : Settings).describe [relaxedVisits] := by
    rw [describe_eq_unlines, describe_eq_unlines]
    decide +kernel
  obtain ⟨_, _, hdrawn⟩ := describe_loses_nothing_shown { showOrphans := true }
    (List.forall_mem_singleton.2 ⟨_, hfirst⟩) (List.forall_mem_singleton.2 ⟨_, hsecond⟩) hsame
  exact ⟨hfirst, hsecond, hsame, hdrawn⟩

end Settings

end SchemaDiagram

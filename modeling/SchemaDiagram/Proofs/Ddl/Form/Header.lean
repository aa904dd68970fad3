import SchemaDiagram.Proofs.Ddl.Form
import SchemaDiagram.Proofs.Ddl.HeaderLine

namespace SchemaDiagram.Ddl

open Text

structure HeaderForm where
  before : OneLine
  ifNotExists : Bool
  name : Name
  margin : Blanks

namespace HeaderForm

def opening (f : HeaderForm) : List Char :=
  "CREATE TABLE ".toList ++ flagText "IF NOT EXISTS " f.ifNotExists

def header (f : HeaderForm) : List Char :=
  f.opening ++ (ticked f.name ++ (" (".toList ++ f.margin))

def line (f : HeaderForm) : String := String.ofList (f.before ++ f.header)

def table (f : HeaderForm) : Table where
  name := String.ofList f.name
  columns := []
  foreignKeys := []
  primaryKeys := []
  uniqueKeys := []

theorem toList_line (f : HeaderForm) : f.line.toList = f.before ++ f.header :=
  String.toList_ofList

theorem tick_not_mem_opening (f : HeaderForm) : tick ∉ f.opening := by
  unfold opening
  cases f.ifNotExists <;> decide

theorem count_tick_header (f : HeaderForm) : f.header.count tick = 2 := by
  have hname : tick ∉ f.name.val := by
    intro hmem
    exact absurd (f.name.property.2 tick hmem) (by decide)
  have hmargin : tick ∉ f.margin.val := by
    intro hmem
    exact absurd (forall_of_onlyBlanks f.margin.property tick hmem) (by decide)
  have hbracket : (" (".toList).count tick = 0 := by decide
  rw [header, ticked]
  simp only [List.count_append, List.count_cons_self, List.count_nil,
    List.count_eq_zero.2 f.tick_not_mem_opening, List.count_eq_zero.2 hname,
    List.count_eq_zero.2 hmargin, hbracket, List.cons_append]

theorem ifNotExists_eq_of_suffix {f g : HeaderForm} (h : g.opening <:+ f.opening) :
    f.ifNotExists = g.ifNotExists := by
  have hflag : ∀ a b, ("CREATE TABLE ".toList ++ flagText "IF NOT EXISTS " b) <:+
      ("CREATE TABLE ".toList ++ flagText "IF NOT EXISTS " a) → a = b := by
    decide
  exact hflag _ _ h

theorem eq_of_header_eq_append {f g : HeaderForm} {t : List Char}
    (h : f.header = t ++ g.header) :
    t = [] ∧ f.ifNotExists = g.ifNotExists ∧ f.name = g.name ∧ f.margin = g.margin := by
  -- Both quotes of `f` stand in `g`, so the text between the two starts has none.
  have htick : tick ∉ t := by
    have hcount := congrArg (List.count tick) h
    rw [List.count_append, f.count_tick_header, g.count_tick_header] at hcount
    exact List.count_eq_zero.1 (by omega)
  have hquoteless {s : List Char} (hs : tick ∉ s) : ∀ c ∈ s, (c != tick) = true := by
    intro c hc
    rw [bne_iff_ne]
    rintro rfl
    exact hs hc
  have hquote (n r : List Char) : Stops (· != tick) (ticked n ++ r) :=
    stops_ticked_append (by decide) n r
  rw [header, header, ← List.append_assoc t] at h
  obtain ⟨hopening, hrest⟩ := append_inj_of_stops (hquoteless f.tick_not_mem_opening)
    (hquoteless (by simp [htick, g.tick_not_mem_opening])) (hquote _ _) (hquote _ _) h
  obtain ⟨hname, hmargin⟩ := ticked_append_inj f.name.property.2 g.name.property.2 hrest
  have hexists := ifNotExists_eq_of_suffix ⟨t, hopening.symm⟩
  refine ⟨?_, hexists, Subtype.ext hname, Subtype.ext (List.append_cancel_left hmargin)⟩
  unfold opening at hopening
  rw [hexists] at hopening
  exact List.append_left_eq_self.1 hopening.symm

theorem isHeader_header (f : HeaderForm) : IsHeader f.header f.name := by
  refine ⟨f.ifNotExists, f.margin, f.name.property, f.margin.property, ?_⟩
  unfold header opening
  simp only [List.append_assoc]

theorem exists_header_eq {s n : List Char} (h : IsHeader s n) (before : OneLine) :
    ∃ f : HeaderForm, f.before = before ∧ f.name.val = n ∧ f.header = s := by
  obtain ⟨b, e, hn, he, rfl⟩ := h
  refine ⟨⟨before, b, ⟨n, hn⟩, ⟨e, he⟩⟩, rfl, rfl, ?_⟩
  unfold header opening
  simp only [List.append_assoc]

theorem headerName_append_header {before : List Char} (h : '\n' ∉ before) (f : HeaderForm) :
    headerName (before ++ f.header) = some f.name.val := by
  induction before with
  | nil => exact headerName_of_isHeader f.isHeader_header
  | cons c r ih =>
      obtain ⟨hc, hr⟩ := not_or.1 (mt List.mem_cons.2 h)
      -- No header begins at an earlier place, since it would end in this one.
      have hnone : headerHere (c :: (r ++ f.header)) = none := by
        rw [Option.eq_none_iff_forall_not_mem]
        intro m hm
        obtain ⟨g, _, _, hg⟩ := exists_header_eq (headerHere_eq_some_iff.1 hm) f.before
        cases (eq_of_header_eq_append (f := g) (g := f) (t := c :: r) hg).1
      rw [List.cons_append, headerName, hnone]
      simp only [if_neg (Ne.symm hc), ih hr]

theorem headerName_eq_some_iff {line n : List Char} :
    headerName line = some n ↔
      ∃ f : HeaderForm, f.before.val ++ f.header = line ∧ f.name.val = n := by
  constructor
  · intro h
    obtain ⟨before, s, hbefore, rfl, hs⟩ := headerName_sound h
    obtain ⟨f, hf, hname, rfl⟩ := exists_header_eq hs ⟨before, hbefore⟩
    exact ⟨f, by rw [hf], hname⟩
  · rintro ⟨f, rfl, rfl⟩
    exact headerName_append_header f.before.property f

theorem table?_eq_some_iff_exists_form {line : String} {t : Table} :
    mysql.table? line = some t ↔ ∃ f : HeaderForm, f.line = line ∧ f.table = t := by
  rw [Dialect.table?, mysql_header?, Option.map_map, Option.map_eq_some_iff]
  constructor
  · rintro ⟨n, hn, rfl⟩
    obtain ⟨f, hline, rfl⟩ := headerName_eq_some_iff.1 hn
    exact ⟨f, String.toList_inj.1 (f.toList_line.trans hline), rfl⟩
  · rintro ⟨f, rfl, rfl⟩
    exact ⟨f.name, headerName_eq_some_iff.2 ⟨f, f.toList_line.symm, rfl⟩, rfl⟩

theorem line_injective : Function.Injective line := by
  -- Of two headers at the end of one line the earlier one has the later one at its own end.
  have heq {f g : HeaderForm} {t : List Char} (hbefore : g.before.val = f.before.val ++ t)
      (h : f.header = t ++ g.header) : f = g := by
    obtain ⟨rfl, hexists, hname, hmargin⟩ := eq_of_header_eq_append h
    obtain ⟨before, ifNotExists, name, margin⟩ := f
    obtain ⟨before', ifNotExists', name', margin'⟩ := g
    obtain rfl : ifNotExists = ifNotExists' := hexists
    obtain rfl : name = name' := hname
    obtain rfl : margin = margin' := hmargin
    obtain rfl : before' = before := Subtype.ext (hbefore.trans (List.append_nil _))
    rfl
  intro f g h
  have htext := congrArg String.toList h
  rw [toList_line, toList_line] at htext
  rcases List.append_eq_append_iff.1 htext with ⟨t, hbefore, hheader⟩ | ⟨t, hbefore, hheader⟩
  · exact heq hbefore hheader
  · exact (heq hbefore hheader).symm

end HeaderForm

theorem table?_readsExactly : ReadsExactly mysql.table? HeaderForm.line HeaderForm.table :=
  readsExactly_of_iff (fun _ _ => HeaderForm.table?_eq_some_iff_exists_form)
    HeaderForm.line_injective

end SchemaDiagram.Ddl

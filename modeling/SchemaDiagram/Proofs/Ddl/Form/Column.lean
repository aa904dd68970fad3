import SchemaDiagram.Proofs.Ddl.ColumnLine
import SchemaDiagram.Proofs.Ddl.Form

namespace SchemaDiagram.Ddl

open Text

inductive ScaleForm where
  | length (digits : { x : List Char //
      (∀ c ∈ x, c.isDigit = true) ∧ 1 ≤ x.length ∧ x.length ≤ 5 })
  | precision (m : Fin (precisionLimit + 1)) (d : Fin (placesLimit + 1))

def ScaleForm.text : ScaleForm → List Char
  | length digits => digits
  | precision m d => Nat.toDigits 10 m ++ ',' :: Nat.toDigits 10 d

inductive DefaultForm where
  | null
  | literal (v : List Char)

def DefaultForm.text : DefaultForm → List Char
  | null => "NULL".toList
  | literal v => quotedLiteral v

theorem isScaleText_iff {x : List Char} : IsScaleText x ↔ ∃ f : ScaleForm, f.text = x := by
  constructor
  · intro h
    cases h with
    | length hdigits hpos hle => exact ⟨.length ⟨x, hdigits, hpos, hle⟩, rfl⟩
    | @precision m d hm hd =>
        exact ⟨.precision ⟨m, Nat.lt_succ_of_le hm⟩ ⟨d, Nat.lt_succ_of_le hd⟩, rfl⟩
  · rintro ⟨⟨x, hdigits, hpos, hle⟩ | ⟨m, d⟩, rfl⟩
    · exact .length hdigits hpos hle
    · exact .precision (Nat.le_of_lt_succ m.isLt) (Nat.le_of_lt_succ d.isLt)

theorem isDefaultText_iff {x : List Char} : IsDefaultText x ↔ ∃ f : DefaultForm, f.text = x := by
  constructor
  · intro h
    cases h with
    | null => exact ⟨.null, rfl⟩
    | literal v => exact ⟨.literal v, rfl⟩
  · rintro ⟨_ | v, rfl⟩
    · exact .null
    · exact .literal v

theorem toDigits_injective : Function.Injective (Nat.toDigits 10) := by
  intro m n h
  rw [← Nat.ofDigitChars_ten_toDigits (n := m), h, Nat.ofDigitChars_ten_toDigits]

theorem comma_not_mem_of_forall_isDigit {x : List Char} (h : ∀ c ∈ x, c.isDigit = true) :
    ',' ∉ x :=
  fun hmem => absurd (h ',' hmem) (by decide)

theorem ScaleForm.text_injective : Function.Injective text := by
  have hcomma (m : Fin (precisionLimit + 1)) (d : Fin (placesLimit + 1)) :
      ',' ∈ (precision m d).text := List.mem_append_right _ List.mem_cons_self
  intro f g h
  cases f with
  | length x =>
      cases g with
      | length y => rw [Subtype.ext h]
      | precision m d =>
          have hmem : ',' ∈ (length x).text := h.symm ▸ hcomma m d
          exact absurd hmem (comma_not_mem_of_forall_isDigit x.property.1)
  | precision m d =>
      cases g with
      | length y =>
          have hmem : ',' ∈ (length y).text := h ▸ hcomma m d
          exact absurd hmem (comma_not_mem_of_forall_isDigit y.property.1)
      | precision m' d' =>
          have hstop (s : List Char) : Stops Char.isDigit (',' :: s) := stops_cons (by decide) s
          obtain ⟨hm, hd⟩ := append_inj_of_stops isDigit_of_mem_toDigits isDigit_of_mem_toDigits
            (hstop _) (hstop _) h
          obtain rfl : m = m' := Fin.ext (toDigits_injective hm)
          obtain rfl : d = d' := Fin.ext (toDigits_injective (List.cons.inj hd).2)
          rfl

theorem doubled_cons (c : Char) (v : List Char) :
    doubled (c :: v) = (if c = '\'' then ['\'', '\''] else [c]) ++ doubled v :=
  List.flatMap_cons

theorem doubled_injective : Function.Injective doubled := by
  intro v
  induction v with
  | nil =>
      intro w h
      cases w with
      | nil => rfl
      | cons d w =>
          rw [doubled_cons] at h
          split at h <;> cases h
  | cons c v ih =>
      intro w h
      cases w with
      | nil =>
          rw [doubled_cons] at h
          split at h <;> cases h
      | cons d w =>
          rw [doubled_cons, doubled_cons] at h
          by_cases hc : c = '\''
          · by_cases hd : d = '\''
            · rw [if_pos hc, if_pos hd] at h
              rw [hc, hd, ih (List.append_cancel_left h)]
            · rw [if_pos hc, if_neg hd] at h
              exact absurd (List.cons.inj h).1.symm hd
          · by_cases hd : d = '\''
            · rw [if_neg hc, if_pos hd] at h
              exact absurd (List.cons.inj h).1 hc
            · rw [if_neg hc, if_neg hd] at h
              rw [(List.cons.inj h).1, ih (List.cons.inj h).2]

theorem DefaultForm.text_injective : Function.Injective text := by
  intro f g h
  cases f with
  | null =>
      cases g with
      | null => rfl
      | literal w => cases h
  | literal v =>
      cases g with
      | null => cases h
      | literal w =>
          have hbody : doubled v = doubled w := List.append_cancel_right (List.cons.inj h).2
          rw [doubled_injective hbody]

structure ColumnForm where
  indent : Blanks
  name : Name
  type : { t : String // t ∈ typeKeywords }
  scale : Option ScaleForm
  notNull : Bool
  autoIncrement : Bool
  default : Option DefaultForm
  ending : Ending

namespace ColumnForm

def column (f : ColumnForm) : Column where
  name := String.ofList f.name
  type := some f.type
  scale := f.scale.map fun s => String.ofList s.text
  notNull := f.notNull
  autoIncrement := f.autoIncrement
  defaultText := f.default.map fun v => String.ofList v.text
  primary := false
  foreign := false

def line (f : ColumnForm) : String :=
  String.ofList (f.indent ++ (f.column.declaration ++ f.ending.text))

theorem toList_line (f : ColumnForm) :
    f.line.toList = f.indent ++ (f.column.declaration ++ f.ending.text) :=
  String.toList_ofList

theorem forall_mem_map_text {φ : Type} {text : φ → List Char} {P : List Char → Prop}
    (hP : ∀ {x}, P x ↔ ∃ f, text f = x) (o : Option φ) :
    ∀ x ∈ o.map fun f => String.ofList (text f), P x.toList := by
  intro x hx
  obtain ⟨f, _, rfl⟩ := Option.map_eq_some_iff.1 hx
  rw [String.toList_ofList]
  exact hP.2 ⟨f, rfl⟩

theorem exists_map_text_eq {φ : Type} {text : φ → List Char} {P : List Char → Prop}
    (hP : ∀ {x}, P x ↔ ∃ f, text f = x) {o : Option String} (ho : ∀ x ∈ o, P x.toList) :
    ∃ p : Option φ, (p.map fun f => String.ofList (text f)) = o := by
  cases o with
  | none => exact ⟨none, rfl⟩
  | some x =>
      obtain ⟨f, hf⟩ := hP.1 (ho x rfl)
      exact ⟨some f, by rw [Option.map_some, hf, String.ofList_toList]⟩

theorem wellFormed_column (f : ColumnForm) : f.column.WellFormed where
  name := by
    rw [column, String.toList_ofList]
    exact f.name.property
  type := ⟨f.type, f.type.property, rfl⟩
  scale := forall_mem_map_text isScaleText_iff f.scale
  defaultText := forall_mem_map_text isDefaultText_iff f.default

theorem exists_column_eq {c : Column} (h : c.WellFormed) (hprimary : c.primary = false)
    (hforeign : c.foreign = false) (indent : Blanks) (ending : Ending) :
    ∃ f : ColumnForm, f.column = c ∧ f.indent = indent ∧ f.ending = ending := by
  obtain ⟨name, type, scale, notNull, auto, dflt, primary, foreign⟩ := c
  obtain ⟨hname, ⟨t, ht, rfl⟩, hscale, hdefault⟩ := h
  obtain rfl : primary = false := hprimary
  obtain rfl : foreign = false := hforeign
  obtain ⟨scale, rfl⟩ := exists_map_text_eq isScaleText_iff hscale
  obtain ⟨dflt, rfl⟩ := exists_map_text_eq isDefaultText_iff hdefault
  refine ⟨⟨indent, ⟨name.toList, hname⟩, ⟨t, ht⟩, scale, notNull, auto, dflt, ending⟩, ?_, rfl,
    rfl⟩
  rw [column, String.ofList_toList]

theorem column?_eq_some_iff_exists_form {line : String} {c : Column} :
    mysql.column? line = some c ↔ ∃ f : ColumnForm, f.line = line ∧ f.column = c := by
  constructor
  · intro h
    obtain ⟨hc, hprimary, hforeign, b, e, hb, he, hline⟩ := column?_eq_some_iff.1 h
    obtain ⟨ending, rfl⟩ := endsDefinition_iff.1 he
    obtain ⟨f, rfl, hindent, rfl⟩ := exists_column_eq hc hprimary hforeign ⟨b, hb⟩ ending
    refine ⟨f, String.toList_inj.1 ?_, rfl⟩
    rw [toList_line, hline, hindent]
  · rintro ⟨f, rfl, rfl⟩
    exact column?_eq_some_iff.2 ⟨f.wellFormed_column, rfl, rfl, f.indent, f.ending.text,
      f.indent.property, f.ending.endsDefinition_text, f.toList_line⟩

theorem stops_declaration (c : Column) (r : List Char) :
    Stops isBlank (c.declaration ++ r) := by
  rw [Column.declaration, List.append_assoc]
  exact stops_ticked_append (by decide) _ _

theorem eq_of_column_eq {f g : ColumnForm} (hcolumn : f.column = g.column)
    (hindent : f.indent = g.indent) (hending : f.ending = g.ending) : f = g := by
  obtain ⟨indent, name, type, scale, notNull, auto, default, ending⟩ := f
  obtain ⟨indent', name', type', scale', notNull', auto', default', ending'⟩ := g
  simp only [column, Column.mk.injEq, Option.some.injEq, String.ofList_inj] at hcolumn
  obtain ⟨hname, htype, hscale, rfl, rfl, hdefault, _⟩ := hcolumn
  obtain rfl : indent = indent' := hindent
  obtain rfl : ending = ending' := hending
  obtain rfl : name = name' := Subtype.ext hname
  obtain rfl : type = type' := Subtype.ext htype
  obtain rfl : scale = scale' :=
    Option.map_injective (fun _ _ h => ScaleForm.text_injective (String.ofList_inj.1 h)) hscale
  obtain rfl : default = default' :=
    Option.map_injective (fun _ _ h => DefaultForm.text_injective (String.ofList_inj.1 h)) hdefault
  rfl

theorem line_injective : Function.Injective line := by
  intro f g h
  -- The line is read as one column, so only the white space and the comma around it are open.
  have hcolumn : f.column = g.column := by
    have hread := column?_eq_some_iff_exists_form.2 ⟨f, h, rfl⟩
    rw [column?_eq_some_iff_exists_form.2 ⟨g, rfl, rfl⟩] at hread
    exact (Option.some.inj hread).symm
  have htext := congrArg String.toList h
  rw [toList_line, toList_line, hcolumn] at htext
  obtain ⟨hindent, hrest⟩ :=
    blanks_append_inj (stops_declaration _ _) (stops_declaration _ _) htext
  have hending : f.ending = g.ending := Ending.text_injective (List.append_cancel_left hrest)
  exact eq_of_column_eq hcolumn hindent hending

end ColumnForm

theorem column?_readsExactly :
    ReadsExactly mysql.column? ColumnForm.line ColumnForm.column :=
  readsExactly_of_iff (fun _ _ => ColumnForm.column?_eq_some_iff_exists_form)
    ColumnForm.line_injective

end SchemaDiagram.Ddl

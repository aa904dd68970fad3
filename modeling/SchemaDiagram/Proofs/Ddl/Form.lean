import SchemaDiagram.Ddl.Dialect
import SchemaDiagram.Proofs.Ddl.Part

namespace SchemaDiagram.Ddl

open Text

/-- The lines that a reader takes are those of some form. No line has that form in two ways, and what
is read are the parts that the line was put together from. -/
structure ReadsExactly {α φ : Type} (read : String → Option α) (line : φ → String)
    (value : φ → α) : Prop where
  isSome_iff : ∀ s, (read s).isSome = true ↔ ∃ f, line f = s
  line_injective : Function.Injective line
  read_line : ∀ f, read (line f) = some (value f)

theorem readsExactly_of_iff {α φ : Type} {read : String → Option α} {line : φ → String}
    {value : φ → α} (hread : ∀ s x, read s = some x ↔ ∃ f, line f = s ∧ value f = x)
    (hline : Function.Injective line) : ReadsExactly read line value where
  isSome_iff s := by
    rw [Option.isSome_iff_exists]
    constructor
    · rintro ⟨x, hx⟩
      obtain ⟨f, hf, _⟩ := (hread s x).1 hx
      exact ⟨f, hf⟩
    · rintro ⟨f, hf⟩
      exact ⟨value f, (hread s _).2 ⟨f, hf, rfl⟩⟩
  line_injective := hline
  read_line f := (hread _ _).2 ⟨f, rfl, rfl⟩

abbrev Blanks := { b : List Char // onlyBlanks b = true }

abbrev OneLine := { s : List Char // '\n' ∉ s }

abbrev Name := { n : List Char // IsName n }

abbrev KeyName := { n : List Char // IsKeyName n }

theorem blanks_append_inj {b c : Blanks} {r s : List Char} (hr : Stops isBlank r)
    (hs : Stops isBlank s) (h : b.val ++ r = c.val ++ s) : b = c ∧ r = s := by
  obtain ⟨hb, hrest⟩ := append_inj_of_stops (forall_of_onlyBlanks b.property)
    (forall_of_onlyBlanks c.property) hr hs h
  exact ⟨Subtype.ext hb, hrest⟩

theorem ticked_append_inj {m n r s : List Char} (hm : ∀ c ∈ m, isNameChar c = true)
    (hn : ∀ c ∈ n, isNameChar c = true) (h : ticked m ++ r = ticked n ++ s) :
    m = n ∧ r = s := by
  rw [ticked_append, ticked_append] at h
  have htick (t : List Char) : Stops isNameChar (tick :: t) := stops_cons isNameChar_tick t
  obtain ⟨hname, hrest⟩ :=
    append_inj_of_stops hm hn (htick r) (htick s) (List.cons.inj h).2
  exact ⟨hname, (List.cons.inj hrest).2⟩

theorem stops_comma_blanks (b : Blanks) : Stops (· == ',') b.val := by
  intro c hc
  have hblank := forall_of_onlyBlanks b.property c (List.mem_of_mem_head? hc)
  rw [beq_eq_false_iff_ne]
  rintro rfl
  cases hblank

theorem stops_comma_close (r : List Char) : Stops (· == ',') (")".toList ++ r) :=
  stops_toList_append (p := (· == ',')) (c := ')') (by decide) (by decide) r

structure Ending where
  comma : Bool
  margin : Blanks

namespace Ending

def text (e : Ending) : List Char := flagText "," e.comma ++ e.margin

theorem text_injective : Function.Injective text := by
  have hcomma (b : Blanks) (r : List Char) : b.val ≠ ',' :: r := by
    intro hb
    have hne := stops_comma_blanks b ',' (by rw [hb]; rfl)
    cases hne
  rintro ⟨comma, b⟩ ⟨comma', c⟩ h
  cases comma with
  | false =>
      cases comma' with
      | false =>
          obtain rfl : b = c := Subtype.ext h
          rfl
      | true => exact absurd h (hcomma b c)
  | true =>
      cases comma' with
      | false => exact absurd h.symm (hcomma c b)
      | true =>
          obtain rfl : b = c := Subtype.ext (List.cons.inj h).2
          rfl

theorem endsDefinition_text (e : Ending) : endsDefinition e.text = true := by
  obtain ⟨comma, b⟩ := e
  cases comma with
  | false =>
      have hnone : after "," (flagText "," false ++ b.val) = none :=
        after_eq_none_of_stops ',' (by decide) (stops_comma_blanks b)
      rw [text, endsDefinition, hnone, Option.getD_none]
      exact b.property
  | true =>
      have hsome : after "," (flagText "," true ++ b.val) = some b.val := after_append "," b.val
      rw [text, endsDefinition, hsome, Option.getD_some]
      exact b.property

end Ending

theorem endsDefinition_iff {s : List Char} :
    endsDefinition s = true ↔ ∃ e : Ending, e.text = s := by
  constructor
  · intro h
    rw [endsDefinition] at h
    cases hcomma : after "," s with
    | none =>
        rw [hcomma, Option.getD_none] at h
        exact ⟨⟨false, s, h⟩, rfl⟩
    | some r =>
        rw [hcomma, Option.getD_some] at h
        exact ⟨⟨true, r, h⟩, (after_eq_some_iff.1 hcomma).symm⟩
  · rintro ⟨e, rfl⟩
    exact e.endsDefinition_text

end SchemaDiagram.Ddl

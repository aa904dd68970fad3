import SchemaDiagram.Proofs.Ddl.ColumnLine
import SchemaDiagram.Proofs.Text.Lines

namespace SchemaDiagram

open Text Ddl

namespace Ddl

theorem isLine_of_forall_isNameChar {n : List Char} (h : ∀ c ∈ n, isNameChar c = true) :
    IsLine n :=
  isLine_of_forall h (by decide) (by decide)

theorem isLine_ticked {n : List Char} (h : ∀ c ∈ n, isNameChar c = true) : IsLine (ticked n) :=
  isLine_append (isLine_append (s := [tick]) (by decide) (isLine_of_forall_isNameChar h))
    (by decide)

theorem isLine_flagText {w : String} (hw : IsLine w.toList) (flag : Bool) :
    IsLine (flagText w flag) := by
  cases flag
  · exact isLine_nil
  · exact hw

theorem isLine_optionalText {w v : String} (hw : IsLine w.toList) (hv : IsLine v.toList)
    {part : Option String} (hpart : ∀ x ∈ part, IsLine x.toList) :
    IsLine (optionalText w part v) := by
  cases part with
  | none => exact isLine_nil
  | some x => exact isLine_append hw (isLine_append (hpart x rfl) hv)

theorem isLine_of_isScaleText {x : List Char} (h : IsScaleText x) : IsLine x := by
  cases h with
  | length hdigits => exact isLine_of_forall hdigits (by decide) (by decide)
  | precision =>
      have hnumeral (n : Nat) : IsLine (Nat.toDigits 10 n) :=
        isLine_of_forall isDigit_of_mem_toDigits (by decide) (by decide)
      exact isLine_append (hnumeral _) (isLine_append (s := [',']) (by decide) (hnumeral _))

theorem isLine_of_isDefaultText {x : List Char} (h : IsDefaultText x) (hfeed : '\n' ∉ x) :
    IsLine x := by
  refine ⟨hfeed, ?_⟩
  cases h with
  | null => decide
  | literal v =>
      rw [quotedLiteral, List.getLast?_append]
      exact fun heq => absurd (Option.some.inj heq) (by decide)

theorem isLine_of_mem_typeKeywords : ∀ w ∈ typeKeywords, IsLine w.toList := by
  decide

end Ddl

namespace Column

def FitsLine (c : Column) : Prop := ∀ x ∈ c.defaultText, '\n' ∉ x.toList

instance : DecidablePred FitsLine := fun c =>
  inferInstanceAs (Decidable (∀ x ∈ c.defaultText, '\n' ∉ x.toList))

theorem WellFormed.isLine_optionalScale {c : Column} (h : c.WellFormed) :
    IsLine (optionalText "(" c.scale ")") :=
  isLine_optionalText (by decide) (by decide) fun x hx => isLine_of_isScaleText (h.scale x hx)

theorem isLine_declaration {c : Column} (h : c.WellFormed) (hfits : c.FitsLine) :
    IsLine c.declaration := by
  obtain ⟨t, ht, htype⟩ := h.type
  have hdefault : ∀ x ∈ c.defaultText, IsLine x.toList :=
    fun x hx => isLine_of_isDefaultText (h.defaultText x hx) (hfits x hx)
  rw [declaration, htype]
  refine isLine_append (isLine_ticked h.name.2) (isLine_append (by decide) ?_)
  refine isLine_append (isLine_of_mem_typeKeywords t ht) ?_
  refine isLine_append h.isLine_optionalScale ?_
  refine isLine_append (isLine_flagText (by decide) _) ?_
  refine isLine_append (isLine_flagText (by decide) _) ?_
  exact isLine_optionalText (by decide) (by decide) hdefault

theorem fitsLine_of_column? {line : List Char} {c : Column} (h : column? line = some c)
    (hfeed : '\n' ∉ line) : c.FitsLine := by
  obtain ⟨_, _, _, b, e, _, _, rfl⟩ := column?_sound h
  intro x hx hmem
  have htail : '\n' ∈ optionalText " DEFAULT " c.defaultText "" := by
    rw [Option.mem_def.1 hx, optionalText]
    exact List.mem_append_right _ (List.mem_append_left _ hmem)
  have hdeclaration : '\n' ∈ c.declaration := by
    unfold declaration
    simp only [List.mem_append, htail, or_true]
  exact hfeed (List.mem_append_right b (List.mem_append_left e hdeclaration))

end Column

end SchemaDiagram

import SchemaDiagram.Proofs.Ddl.ColumnLine

namespace SchemaDiagram

namespace Text

variable {p : Char → Bool} {s t : List Char}

def EndsOutside (p : Char → Bool) (s : List Char) : Prop := ∀ c ∈ s.getLast?, p c = false

instance : Decidable (EndsOutside p s) :=
  decidable_of_iff (s.getLast?.any p = false) (by
    unfold EndsOutside
    cases s.getLast? <;> simp)

theorem endsOutside_nil (p : Char → Bool) : EndsOutside p [] := by
  intro c hc
  cases hc

theorem stops_reverse_iff : Stops p s.reverse ↔ EndsOutside p s := by
  rw [Stops, EndsOutside, List.head?_reverse]

theorem endsOutside_append (hs : EndsOutside p s) (ht : EndsOutside p t) :
    EndsOutside p (s ++ t) := by
  rw [← stops_reverse_iff] at hs ht ⊢
  rw [List.reverse_append]
  exact stops_append ht hs

theorem endsOutside_append_of_ne_nil (s : List Char) (ht : EndsOutside p t) (hne : t ≠ []) :
    EndsOutside p (s ++ t) := by
  intro c hc
  rw [List.getLast?_append, List.getLast?_eq_some_getLast hne, Option.some_or] at hc
  exact ht c (by rwa [List.getLast?_eq_some_getLast hne])

end Text

open Text

namespace Ddl

theorem endsOutside_optionalText {p : Char → Bool} {w v : String} {part : Option String}
    (h : ∀ x ∈ part, EndsOutside p (w.toList ++ (x.toList ++ v.toList))) :
    EndsOutside p (optionalText w part v) := by
  cases part with
  | none => exact endsOutside_nil p
  | some x => exact h x rfl

theorem endsOutside_flagText {p : Char → Bool} {w : String} (h : EndsOutside p w.toList)
    (flag : Bool) : EndsOutside p (flagText w flag) := by
  cases flag with
  | false => exact endsOutside_nil p
  | true => exact h

def lastWords : List String :=
  typeKeywords ++ [")", " NOT NULL", " AUTO_INCREMENT", "NULL", "'"]

section LastWords

variable {p : Char → Bool} (hp : ∀ w ∈ lastWords, EndsOutside p w.toList)

include hp

theorem endsOutside_append_of_mem_lastWords {w : String} (hw : w ∈ lastWords) (s : List Char) :
    EndsOutside p (s ++ w.toList) := by
  have hne : ∀ w ∈ lastWords, w.toList ≠ [] := by decide
  exact endsOutside_append_of_ne_nil s (hp w hw) (hne w hw)

theorem endsOutside_append_of_isDefaultText {x : List Char} (h : IsDefaultText x)
    (s : List Char) : EndsOutside p (s ++ x) := by
  cases h with
  | null => exact endsOutside_append_of_mem_lastWords hp (by decide) s
  | literal v =>
      rw [quotedLiteral, ← List.append_assoc]
      exact endsOutside_append_of_mem_lastWords hp (w := "'") (by decide) _

theorem endsOutside_attributes {c : Column} (hc : c.WellFormed) :
    EndsOutside p (optionalText "(" c.scale ")" ++ (flagText " NOT NULL" c.notNull
      ++ (flagText " AUTO_INCREMENT" c.autoIncrement
        ++ optionalText " DEFAULT " c.defaultText ""))) := by
  have hscale : EndsOutside p (optionalText "(" c.scale ")") :=
    endsOutside_optionalText fun x _ => by
      rw [← List.append_assoc]
      exact endsOutside_append_of_mem_lastWords hp (by decide) _
  have hdefault : EndsOutside p (optionalText " DEFAULT " c.defaultText "") :=
    endsOutside_optionalText fun x hx => by
      rw [show "".toList = [] from rfl, List.append_nil]
      exact endsOutside_append_of_isDefaultText hp (hc.defaultText x hx) _
  refine endsOutside_append hscale (endsOutside_append ?_ (endsOutside_append ?_ hdefault))
  · exact endsOutside_flagText (hp _ (by decide)) c.notNull
  · exact endsOutside_flagText (hp _ (by decide)) c.autoIncrement

theorem endsOutside_append_declaration {c : Column} (hc : c.WellFormed) (b : List Char) :
    EndsOutside p (b ++ c.declaration) := by
  obtain ⟨t, ht, htype⟩ := hc.type
  have hword : t ∈ lastWords := List.mem_append_left _ ht
  rw [Column.declaration, htype, Option.getD_some, ← List.append_assoc, ← List.append_assoc,
    ← List.append_assoc]
  exact endsOutside_append (endsOutside_append_of_mem_lastWords hp hword _)
    (endsOutside_attributes hp hc)

end LastWords

end Ddl

end SchemaDiagram

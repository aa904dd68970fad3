import SchemaDiagram.Proofs.Ddl.ColumnValue
import SchemaDiagram.Proofs.Ddl.Part

namespace SchemaDiagram

open Text Ddl

namespace Column

def declaration (c : Column) : List Char :=
  ticked c.name.toList ++ (" ".toList ++ ((c.type.getD "").toList
    ++ (optionalText "(" c.scale ")" ++ (flagText " NOT NULL" c.notNull
      ++ (flagText " AUTO_INCREMENT" c.autoIncrement
        ++ optionalText " DEFAULT " c.defaultText "")))))

structure WellFormed (c : Column) : Prop where
  name : IsName c.name.toList
  type : ∃ t ∈ typeKeywords, c.type = some t
  scale : ∀ x ∈ c.scale, IsScaleText x.toList
  defaultText : ∀ x ∈ c.defaultText, IsDefaultText x.toList

end Column

namespace Ddl

theorem typeKeyword_sound {s r : List Char} {t : String} (h : typeKeyword s = some (t, r)) :
    t ∈ typeKeywords ∧ s = t.toList ++ r := by
  obtain ⟨w, hw, hmap⟩ := List.exists_of_findSome?_eq_some h
  obtain ⟨q, hq, heq⟩ := Option.map_eq_some_iff.1 hmap
  obtain ⟨rfl, rfl⟩ := Prod.mk.inj heq
  exact ⟨hw, after_eq_some_iff.1 hq⟩

theorem after_append_eq_none_of_stops {w v u : String} {c : Char} {r : List Char}
    (hw : w.toList = v.toList ++ u.toList) (hu : u.toList.head? = some c)
    (hr : Stops (· == c) r) : after w (v.toList ++ r) = none := by
  rw [Option.eq_none_iff_forall_not_mem]
  intro q hq
  have happ := after_eq_some_iff.1 hq
  rw [hw, List.append_assoc, List.append_cancel_left_eq] at happ
  have hnone := after_eq_none_of_stops c hu hr
  rw [happ, after_append] at hnone
  cases hnone

theorem typeKeyword_complete {t : String} (ht : t ∈ typeKeywords) {r : List Char}
    (hr : Stops (· == 't') r) : typeKeyword (t.toList ++ r) = some (t, r) := by
  -- "date" is tried after "datetime", which must not be found where only "date" stands.
  have hdate : after "datetime" ("date".toList ++ r) = none :=
    after_append_eq_none_of_stops (u := "time") (by decide) rfl hr
  simp only [typeKeywords, List.mem_cons, List.not_mem_nil, or_false] at ht
  rcases ht with rfl | rfl | rfl | rfl | rfl | rfl
  all_goals
    simp (disch := decide) only [typeKeyword, typeKeywords, List.findSome?_cons, hdate,
      after_append_eq_none, after_append, Option.map_none, Option.map_some]

theorem column?_sound {line : List Char} {c : Column} (h : column? line = some c) :
    c.WellFormed ∧ c.primary = false ∧ c.foreign = false ∧
      ∃ b e, onlyBlanks b = true ∧ endsDefinition e = true ∧
        line = b ++ (c.declaration ++ e) := by
  simp only [column?, Option.bind_eq_bind, Option.bind_eq_some_iff] at h
  obtain ⟨⟨name, r₁⟩, h₁, r₂, h₂, ⟨type, r₃⟩, h₃, h⟩ := h
  obtain ⟨hname, h₁⟩ := declaredName_eq_some_iff.1 h₁
  obtain ⟨htype, h₃⟩ := typeKeyword_sound h₃
  have h₂ : r₁ = " ".toList ++ r₂ := after_eq_some_iff.1 h₂
  obtain ⟨scale, r₄, h₄⟩ : ∃ o r, optionalPart scale? r₃ = (o, r) := ⟨_, _, rfl⟩
  obtain ⟨notNull, r₅, h₅⟩ : ∃ b r, afterOptional " NOT NULL" r₄ = (b, r) := ⟨_, _, rfl⟩
  obtain ⟨auto, r₆, h₆⟩ : ∃ b r, afterOptional " AUTO_INCREMENT" r₅ = (b, r) := ⟨_, _, rfl⟩
  obtain ⟨dflt, r₇, h₇⟩ : ∃ o r, optionalPart default? r₆ = (o, r) := ⟨_, _, rfl⟩
  simp only [h₄, h₅, h₆, h₇, Option.guard_eq_some'] at h
  obtain ⟨_, hend, heq⟩ := h
  obtain rfl := Option.some.inj heq
  obtain ⟨hscale, h₄⟩ := optionalPart_sound (w := "(") (v := ")") scale?_sound h₄
  obtain ⟨hdefault, h₇⟩ := optionalPart_sound (w := " DEFAULT ") (v := "") default?_sound h₇
  rw [afterOptional_sound h₅, afterOptional_sound h₆, h₇] at h₄
  refine ⟨⟨?_, ⟨type, htype, rfl⟩, hscale, hdefault⟩, rfl, rfl,
    (line.takeWhile isBlank), r₇, onlyBlanks_takeWhile line, hend, ?_⟩
  · rwa [String.toList_ofList]
  · calc line = line.takeWhile isBlank ++ skipBlanks line := (takeWhile_append_skipBlanks line).symm
      _ = _ := by
        rw [h₁, h₂, h₃, h₄]
        simp only [Column.declaration, String.toList_ofList, Option.getD_some, List.append_assoc]

theorem scale?_eq_none {s : List Char} (h : after "(" s = none) : scale? s = none := by
  rw [scale?, h]
  rfl

theorem default?_eq_none {s : List Char} (h : after " DEFAULT " s = none) : default? s = none := by
  rw [default?, h]
  rfl

theorem optionalPart_scale {o : Option String} (ho : ∀ x ∈ o, IsScaleText x.toList)
    {r : List Char} (hr : Stops (· == '(') r) :
    optionalPart scale? (optionalText "(" o ")" ++ r) = (o, r) :=
  optionalPart_optionalText (scale?_eq_none (after_eq_none_of_stops '(' (by decide) hr))
    fun x hx => scale?_complete (ho x hx) r

section Attributes

variable {e : List Char} (he : endsDefinition e = true)

include he

theorem optionalPart_default {o : Option String} (ho : ∀ x ∈ o, IsDefaultText x.toList) :
    optionalPart default? (optionalText " DEFAULT " o "" ++ e) = (o, e) := by
  have hnone : after " DEFAULT " e = none :=
    after_eq_none_of_endsDefinition (c := 'D') he (by decide) (by decide) (by decide)
  have hquote : Stops (· == '\'') e := stops_beq_of_endsDefinition he (by decide) (by decide)
  exact optionalPart_optionalText (default?_eq_none hnone)
    fun x hx => default?_complete (ho x hx) hquote

theorem afterOptional_autoIncrement (auto : Bool) (o : Option String) :
    afterOptional " AUTO_INCREMENT" (flagText " AUTO_INCREMENT" auto
      ++ (optionalText " DEFAULT " o "" ++ e)) = (auto, optionalText " DEFAULT " o "" ++ e) := by
  have hnone : after " AUTO_INCREMENT" e = none :=
    after_eq_none_of_endsDefinition (c := 'A') he (by decide) (by decide) (by decide)
  exact afterOptional_flagText
    (after_optionalText_append_eq_none (by decide) (by decide) hnone o "") auto

theorem afterOptional_notNull (notNull auto : Bool) (o : Option String) :
    afterOptional " NOT NULL" (flagText " NOT NULL" notNull ++ (flagText " AUTO_INCREMENT" auto
      ++ (optionalText " DEFAULT " o "" ++ e))) =
      (notNull, flagText " AUTO_INCREMENT" auto ++ (optionalText " DEFAULT " o "" ++ e)) := by
  have hnone : after " NOT NULL" e = none :=
    after_eq_none_of_endsDefinition (c := 'N') he (by decide) (by decide) (by decide)
  exact afterOptional_flagText (after_flagText_append_eq_none (by decide) (by decide)
    (after_optionalText_append_eq_none (by decide) (by decide) hnone o "") auto) notNull

theorem stops_attributes {d : Char} (hblank : isBlank d = false) (hcomma : d ≠ ',')
    (notNull auto : Bool) (o : Option String) :
    Stops (· == d) (flagText " NOT NULL" notNull ++ (flagText " AUTO_INCREMENT" auto
      ++ (optionalText " DEFAULT " o "" ++ e))) := by
  have hspace : (' ' == d) = false := by
    rw [beq_eq_false_iff_ne]
    rintro rfl
    cases hblank
  have hword (s : List Char) : Stops (· == d) (' ' :: s) :=
    stops_cons (p := (· == d)) hspace s
  refine stops_append (stops_flagText (hword _) notNull) ?_
  refine stops_append (stops_flagText (hword _) auto) ?_
  refine stops_append ?_ (stops_beq_of_endsDefinition he hblank hcomma)
  exact stops_optionalText (p := (· == d)) (c := ' ') (by decide) hspace o ""

end Attributes

theorem column?_complete {c : Column} (hc : c.WellFormed) (hp : c.primary = false)
    (hf : c.foreign = false) {b e : List Char} (hb : onlyBlanks b = true)
    (he : endsDefinition e = true) : column? (b ++ (c.declaration ++ e)) = some c := by
  obtain ⟨name, type, scale, notNull, auto, dflt, primary, foreign⟩ := c
  obtain ⟨hname, ⟨word, hword, rfl⟩, hscale, hdefault⟩ := hc
  obtain rfl : primary = false := hp
  obtain rfl : foreign = false := hf
  -- From the end of the line: no part can be found in what follows it, so its absence is seen.
  have h₇ := optionalPart_default he hdefault
  have h₆ := afterOptional_autoIncrement he auto dflt
  have h₅ := afterOptional_notNull he notNull auto dflt
  generalize hr₄ : flagText " NOT NULL" notNull ++ (flagText " AUTO_INCREMENT" auto
    ++ (optionalText " DEFAULT " dflt "" ++ e)) = r₄ at h₅
  have hopen : Stops (· == '(') r₄ := hr₄ ▸ stops_attributes he (by decide) (by decide) _ _ _
  have hletter : Stops (· == 't') r₄ := hr₄ ▸ stops_attributes he (by decide) (by decide) _ _ _
  have h₄ := optionalPart_scale hscale hopen
  have h₃ : typeKeyword (word.toList ++ (optionalText "(" scale ")" ++ r₄)) =
      some (word, optionalText "(" scale ")" ++ r₄) :=
    typeKeyword_complete hword (stops_append
      (stops_optionalText (p := (· == 't')) (c := '(') (by decide) (by decide) scale ")") hletter)
  have hline : b ++ (Column.declaration ⟨name, some word, scale, notNull, auto, dflt, false, false⟩
      ++ e) = b ++ (ticked name.toList ++ (" ".toList ++ (word.toList
        ++ (optionalText "(" scale ")" ++ r₄)))) := by
    simp only [Column.declaration, Option.getD_some, List.append_assoc, ← hr₄]
  rw [hline, column?, skipBlanks_append_of_stops hb (stops_ticked_append (by decide) _ _),
    declaredName_eq_some_iff.2 ⟨hname, rfl⟩]
  simp only [Option.bind_eq_bind, Option.bind_some, after_append, h₃, h₄, h₅, h₆, h₇,
    String.ofList_toList]
  exact Option.bind_eq_some_iff.2 ⟨(), (Option.guard_eq_some' ()).2 he, rfl⟩

theorem column?_eq_some_iff {line : List Char} {c : Column} :
    column? line = some c ↔ c.WellFormed ∧ c.primary = false ∧ c.foreign = false ∧
      ∃ b e, onlyBlanks b = true ∧ endsDefinition e = true ∧
        line = b ++ (c.declaration ++ e) := by
  refine ⟨column?_sound, ?_⟩
  rintro ⟨hc, hp, hf, b, e, hb, he, rfl⟩
  exact column?_complete hc hp hf hb he

end Ddl

end SchemaDiagram

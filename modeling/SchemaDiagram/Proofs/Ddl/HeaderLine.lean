import SchemaDiagram.Ddl.Dialect
import SchemaDiagram.Proofs.Ddl.Part

namespace SchemaDiagram.Ddl

open Text

def IsHeader (s n : List Char) : Prop :=
  ∃ b e, IsName n ∧ onlyBlanks e = true ∧
    s = "CREATE TABLE ".toList ++ (flagText "IF NOT EXISTS " b ++ (ticked n ++ (" (".toList ++ e)))

theorem headerHere_eq_some_iff {s n : List Char} : headerHere s = some n ↔ IsHeader s n := by
  constructor
  · intro h
    simp only [headerHere, Option.bind_eq_bind, Option.bind_eq_some_iff, after_eq_some_iff] at h
    obtain ⟨r, hr, ⟨m, r₂⟩, hname, e, he, _, hguard, heq⟩ := h
    obtain ⟨b, r₁, h₁⟩ : ∃ b r₁, afterOptional "IF NOT EXISTS " r = (b, r₁) := ⟨_, _, rfl⟩
    rw [h₁] at hname
    obtain ⟨hm, hr₁⟩ := declaredName_eq_some_iff.1 hname
    obtain rfl := Option.some.inj heq
    have he : r₂ = " (".toList ++ e := he
    have hr₁ : r₁ = ticked m ++ r₂ := hr₁
    refine ⟨b, e, hm, (Option.guard_eq_some' ()).1 hguard, ?_⟩
    rw [← he, ← hr₁, ← afterOptional_sound h₁, ← hr]
  · rintro ⟨b, e, hn, he, rfl⟩
    have hnone : after "IF NOT EXISTS " (ticked n ++ (" (".toList ++ e)) = none :=
      after_eq_none_of_ne (c := 'I') (by decide) (by decide) _
    have hname : declaredName (ticked n ++ (" (".toList ++ e)) = some (n, " (".toList ++ e) :=
      declaredName_eq_some_iff.2 ⟨hn, rfl⟩
    simp only [headerHere, after_append, afterOptional_flagText hnone, hname,
      Option.bind_eq_bind, Option.bind_some]
    exact Option.bind_eq_some_iff.2 ⟨(), (Option.guard_eq_some' ()).2 he, rfl⟩

theorem headerName_sound {line n : List Char} (h : headerName line = some n) :
    ∃ before s, '\n' ∉ before ∧ line = before ++ s ∧ IsHeader s n := by
  induction line with
  | nil => cases h
  | cons c r ih =>
      rw [headerName] at h
      cases hhere : headerHere (c :: r) with
      | some m =>
          rw [hhere] at h
          obtain rfl := Option.some.inj h
          exact ⟨[], c :: r, List.not_mem_nil, rfl, headerHere_eq_some_iff.1 hhere⟩
      | none =>
          rw [hhere] at h
          dsimp only at h
          split at h
          · cases h
          · rename_i hc
            obtain ⟨before, s, hbefore, hr, hs⟩ := ih h
            refine ⟨c :: before, s, ?_, by rw [hr]; rfl, hs⟩
            rintro (_ | ⟨_, hmem⟩)
            · exact hc rfl
            · exact hbefore hmem

theorem headerName_of_isHeader {s n : List Char} (h : IsHeader s n) : headerName s = some n := by
  have hhere := headerHere_eq_some_iff.2 h
  cases s with
  | nil =>
      rw [show headerHere [] = none from rfl] at hhere
      cases hhere
  | cons c r => rw [headerName, hhere]

theorem mysql_header? (line : String) :
    mysql.header? line = (headerName line.toList).map String.ofList := rfl

end SchemaDiagram.Ddl

import SchemaDiagram.Ddl.ColumnLine
import SchemaDiagram.Proofs.Ddl.Name

namespace SchemaDiagram.Ddl

open Text

inductive IsScaleText : List Char → Prop
  | length {x : List Char} : (∀ c ∈ x, c.isDigit = true) → 1 ≤ x.length → x.length ≤ 5 →
      IsScaleText x
  | precision {m d : Nat} : m ≤ precisionLimit → d ≤ placesLimit →
      IsScaleText (Nat.toDigits 10 m ++ ',' :: Nat.toDigits 10 d)

def doubled (v : List Char) : List Char :=
  v.flatMap fun c => if c = '\'' then ['\'', '\''] else [c]

def quotedLiteral (v : List Char) : List Char := '\'' :: doubled v ++ ['\'']

inductive IsDefaultText : List Char → Prop
  | null : IsDefaultText "NULL".toList
  | literal (v : List Char) : IsDefaultText (quotedLiteral v)

theorem isPlainNumeral_iff {limit : Nat} {s : List Char} :
    isPlainNumeral limit s = true ↔ ∃ n ≤ limit, Nat.toDigits 10 n = s := by
  simp only [isPlainNumeral, List.any_eq_true, List.mem_range, Nat.lt_succ_iff, beq_iff_eq]

theorem isDigit_of_mem_toDigits {n : Nat} : ∀ c ∈ Nat.toDigits 10 n, c.isDigit = true :=
  fun _ hc => Nat.isDigit_of_mem_toDigits (by decide) (by decide) hc

theorem scale?_sound {s x r : List Char} (h : scale? s = some (x, r)) :
    IsScaleText x ∧ s = "(".toList ++ (x ++ (")".toList ++ r)) := by
  rw [scale?, Option.bind_eq_bind, Option.bind_eq_some_iff] at h
  obtain ⟨t, ht, h⟩ := h
  rw [after_eq_some_iff] at ht
  have hsplit : t.takeWhile Char.isDigit ++ t.dropWhile Char.isDigit = t :=
    List.takeWhile_append_dropWhile
  have hdigits : ∀ c ∈ t.takeWhile Char.isDigit, c.isDigit = true :=
    List.all_eq_true.1 List.all_takeWhile
  cases hcomma : after "," (t.dropWhile Char.isDigit) with
  | none =>
      simp only [hcomma, Option.bind_eq_bind, Option.bind_eq_some_iff, after_eq_some_iff,
        Option.guard_eq_some', isScale, Bool.and_eq_true, decide_eq_true_eq] at h
      obtain ⟨u, hu, _, ⟨hpos, hle⟩, heq⟩ := h
      obtain ⟨rfl, rfl⟩ := Prod.mk.inj (Option.some.inj heq)
      refine ⟨.length hdigits hpos hle, ?_⟩
      rw [ht, ← hu, hsplit]
  | some u =>
      simp only [hcomma, Option.bind_eq_bind, Option.bind_eq_some_iff, after_eq_some_iff,
        Option.guard_eq_some', isScale, Bool.and_eq_true, isPlainNumeral_iff] at h
      obtain ⟨v, hv, _, ⟨⟨m, hm, hdm⟩, d, hd, hdd⟩, heq⟩ := h
      obtain ⟨rfl, rfl⟩ := Prod.mk.inj (Option.some.inj heq)
      refine ⟨?_, ?_⟩
      · rw [← hdm, ← hdd]
        exact .precision hm hd
      · have hu : u.takeWhile Char.isDigit ++ (")".toList ++ v) = u := by
          rw [← hv, List.takeWhile_append_dropWhile]
        have ht' : t.dropWhile Char.isDigit = ',' :: u := after_eq_some_iff.1 hcomma
        rw [ht, List.append_assoc, List.cons_append, hu, ← ht', hsplit]

theorem scale?_complete {x : List Char} (h : IsScaleText x) (r : List Char) :
    scale? ("(".toList ++ (x ++ (")".toList ++ r))) = some (x, r) := by
  have hclose : Stops Char.isDigit (")".toList ++ r) := stops_cons (by decide) r
  simp only [scale?, Option.bind_eq_bind, Option.bind_some, after_append]
  cases h with
  | length hdigits hpos hle =>
      have hcomma : after "," (")".toList ++ r) = none :=
        after_append_eq_none (by decide) (by decide) r
      have hscale : isScale x none = true := by simp [isScale, hpos, hle]
      simp only [takeWhile_append_of_stops hdigits hclose,
        dropWhile_append_of_stops hdigits hclose, hcomma, after_append, Option.bind_some,
        Option.bind_eq_some_iff, Option.guard_eq_some']
      exact ⟨(), hscale, rfl⟩
  | @precision m d hm hd =>
      have hstop : Stops Char.isDigit (',' :: (Nat.toDigits 10 d ++ (")".toList ++ r))) :=
        stops_cons (by decide) _
      have hcomma : after "," (',' :: (Nat.toDigits 10 d ++ (")".toList ++ r))) =
          some (Nat.toDigits 10 d ++ (")".toList ++ r)) := after_append "," _
      have hscale : isScale (Nat.toDigits 10 m) (some (Nat.toDigits 10 d)) = true := by
        rw [isScale, Bool.and_eq_true, isPlainNumeral_iff, isPlainNumeral_iff]
        exact ⟨⟨m, hm, rfl⟩, d, hd, rfl⟩
      simp only [List.append_assoc, List.cons_append,
        takeWhile_append_of_stops isDigit_of_mem_toDigits hstop,
        dropWhile_append_of_stops isDigit_of_mem_toDigits hstop, hcomma,
        takeWhile_append_of_stops isDigit_of_mem_toDigits hclose,
        dropWhile_append_of_stops isDigit_of_mem_toDigits hclose, after_append, Option.bind_some,
        Option.bind_eq_some_iff, Option.guard_eq_some']
      exact ⟨(), hscale, rfl⟩

theorem literalBody_sound {s b r : List Char} (h : literalBody s = some (b, r)) :
    ∃ v, b = doubled v ∧ s = doubled v ++ '\'' :: r := by
  fun_induction literalBody s generalizing b with
  | case1 => cases h
  | case2 t ih =>
      obtain ⟨⟨b', r'⟩, hb, heq⟩ := Option.map_eq_some_iff.1 h
      obtain ⟨rfl, rfl⟩ := Prod.mk.inj heq
      obtain ⟨v, rfl, rfl⟩ := ih hb
      exact ⟨'\'' :: v, rfl, rfl⟩
  | case3 t =>
      obtain ⟨rfl, rfl⟩ := Prod.mk.inj (Option.some.inj h)
      exact ⟨[], rfl, rfl⟩
  | case4 c t hne hc ih =>
      obtain ⟨⟨b', r'⟩, hb, heq⟩ := Option.map_eq_some_iff.1 h
      obtain ⟨rfl, rfl⟩ := Prod.mk.inj heq
      obtain ⟨v, rfl, rfl⟩ := ih hb
      refine ⟨c :: v, ?_, ?_⟩ <;> simp [doubled, hc]

theorem literalBody_complete (v : List Char) {r : List Char} (hr : Stops (· == '\'') r) :
    literalBody (doubled v ++ '\'' :: r) = some (doubled v, r) := by
  induction v with
  | nil =>
      cases r with
      | nil => rfl
      | cons d r =>
          have hd : d ≠ '\'' := by simpa using hr d rfl
          rw [doubled, List.flatMap_nil, List.nil_append, literalBody, if_pos rfl]
          intro t _ heq
          exact hd (List.cons.inj heq).1
  | cons c v ih =>
      by_cases hc : c = '\''
      · have hdoubled : doubled (c :: v) = '\'' :: '\'' :: doubled v := by simp [doubled, hc]
        rw [hdoubled, List.cons_append, List.cons_append, literalBody, ih, Option.map_some]
      · have hdoubled : doubled (c :: v) = c :: doubled v := by simp [doubled, hc]
        rw [hdoubled, List.cons_append, literalBody, if_neg hc, ih, Option.map_some]
        intro t heq
        exact absurd heq hc

theorem default?_sound {s x r : List Char} (h : default? s = some (x, r)) :
    IsDefaultText x ∧ s = " DEFAULT ".toList ++ (x ++ r) := by
  rw [default?, Option.bind_eq_bind, Option.bind_eq_some_iff] at h
  obtain ⟨t, ht, h⟩ := h
  rw [after_eq_some_iff] at ht
  cases hnull : after "NULL" t with
  | some u =>
      simp only [hnull] at h
      obtain ⟨rfl, rfl⟩ := Prod.mk.inj (Option.some.inj h)
      exact ⟨.null, by rw [ht, after_eq_some_iff.1 hnull]⟩
  | none =>
      simp only [hnull, literal?, Option.bind_eq_bind, Option.bind_eq_some_iff,
        after_eq_some_iff] at h
      obtain ⟨u, hu, ⟨b, r'⟩, hb, heq⟩ := h
      obtain ⟨rfl, rfl⟩ := Prod.mk.inj (Option.some.inj heq)
      obtain ⟨v, rfl, rfl⟩ := literalBody_sound hb
      refine ⟨.literal v, ?_⟩
      rw [ht, hu]
      simp

theorem default?_complete {x : List Char} (h : IsDefaultText x) {r : List Char}
    (hr : Stops (· == '\'') r) : default? (" DEFAULT ".toList ++ (x ++ r)) = some (x, r) := by
  simp only [default?, Option.bind_eq_bind, Option.bind_some, after_append]
  cases h with
  | null =>
      rw [after_append]
      rfl
  | literal v =>
      have hnull : after "NULL" (quotedLiteral v ++ r) = none :=
        after_eq_none_of_ne rfl (by decide) _
      have hquote : after "'" (quotedLiteral v ++ r) = some (doubled v ++ '\'' :: r) := by
        rw [after_eq_some_iff]
        simp [quotedLiteral]
      simp only [hnull, literal?, hquote, Option.bind_eq_bind, Option.bind_some,
        literalBody_complete v hr]
      rfl

end SchemaDiagram.Ddl

import SchemaDiagram.Ddl.ColumnLine
import SchemaDiagram.Proofs.Ddl.Name

namespace SchemaDiagram.Ddl

open Text

theorem mem_of_endsDefinition {e : List Char} (h : endsDefinition e = true) :
    ∀ c ∈ e, isBlank c = true ∨ c = ',' := by
  rw [endsDefinition] at h
  intro c hc
  cases hcomma : after "," e with
  | none =>
      rw [hcomma, Option.getD_none] at h
      exact .inl (forall_of_onlyBlanks h c hc)
  | some r =>
      rw [hcomma, Option.getD_some] at h
      rw [after_eq_some_iff.1 hcomma] at hc
      rcases List.mem_cons.1 hc with rfl | hr
      · exact .inr rfl
      · exact .inl (forall_of_onlyBlanks h c hr)

theorem stops_of_endsDefinition {p : Char → Bool} {e : List Char} (h : endsDefinition e = true)
    (hblank : ∀ c, isBlank c = true → p c = false) (hcomma : p ',' = false) : Stops p e := by
  intro c hc
  rcases mem_of_endsDefinition h c (List.mem_of_mem_head? hc) with hb | rfl
  · exact hblank c hb
  · exact hcomma

theorem stops_beq_of_endsDefinition {d : Char} {e : List Char} (h : endsDefinition e = true)
    (hblank : isBlank d = false) (hcomma : d ≠ ',') : Stops (· == d) e := by
  refine stops_of_endsDefinition h ?_ (by simp [Ne.symm hcomma])
  intro c hc
  rw [beq_eq_false_iff_ne]
  rintro rfl
  rw [hc] at hblank
  cases hblank

theorem after_eq_none_of_endsDefinition {w : String} {e : List Char} {c : Char}
    (h : endsDefinition e = true) (hc : c ∈ w.toList) (hblank : isBlank c = false)
    (hcomma : c ≠ ',') : after w e = none := by
  rw [Option.eq_none_iff_forall_not_mem]
  intro r hr
  have hmem : c ∈ e := by
    rw [after_eq_some_iff.1 hr]
    exact List.mem_append_left r hc
  rcases mem_of_endsDefinition h c hmem with hb | hb
  · rw [hb] at hblank
    cases hblank
  · exact hcomma hb

def optionalText (before : String) (part : Option String) (behind : String) : List Char :=
  match part with
  | none => []
  | some text => before.toList ++ (text.toList ++ behind.toList)

def flagText (word : String) (flag : Bool) : List Char := if flag then word.toList else []

theorem stops_flagText {p : Char → Bool} {w : String} (hw : Stops p w.toList) (b : Bool) :
    Stops p (flagText w b) := by
  cases b
  · exact stops_nil p
  · exact hw

theorem stops_optionalText {p : Char → Bool} {w : String} {c : Char} (hw : w.toList.head? = some c)
    (hc : p c = false) (part : Option String) (behind : String) :
    Stops p (optionalText w part behind) := by
  cases part with
  | none => exact stops_nil p
  | some text =>
      obtain ⟨tl, htl⟩ := List.head?_eq_some_iff.1 hw
      rw [optionalText, htl]
      exact stops_cons hc _

theorem afterOptional_sound {w : String} {b : Bool} {s r : List Char}
    (h : afterOptional w s = (b, r)) : s = flagText w b ++ r := by
  cases hw : after w s with
  | none =>
      rw [afterOptional, hw] at h
      obtain ⟨rfl, rfl⟩ := Prod.mk.inj h
      rfl
  | some t =>
      rw [afterOptional, hw] at h
      obtain ⟨rfl, rfl⟩ := Prod.mk.inj h
      exact after_eq_some_iff.1 hw

theorem afterOptional_flagText {w : String} {r : List Char} (hr : after w r = none) (b : Bool) :
    afterOptional w (flagText w b ++ r) = (b, r) := by
  cases b with
  | false => simp only [flagText, afterOptional, Bool.false_eq_true, if_false, List.nil_append, hr]
  | true => simp only [flagText, afterOptional, if_true, after_append]

theorem optionalPart_sound {part : List Char → Option (List Char × List Char)}
    {P : List Char → Prop} {w v : String}
    (hpart : ∀ {s x r}, part s = some (x, r) → P x ∧ s = w.toList ++ (x ++ (v.toList ++ r)))
    {s r : List Char} {o : Option String} (h : optionalPart part s = (o, r)) :
    (∀ x ∈ o, P x.toList) ∧ s = optionalText w o v ++ r := by
  cases hs : part s with
  | none =>
      rw [optionalPart, hs] at h
      obtain ⟨rfl, rfl⟩ := Prod.mk.inj h
      exact ⟨(fun x hx => nomatch hx), rfl⟩
  | some q =>
      obtain ⟨x, t⟩ := q
      rw [optionalPart, hs] at h
      obtain ⟨rfl, rfl⟩ := Prod.mk.inj h
      obtain ⟨hx, heq⟩ := hpart hs
      refine ⟨?_, ?_⟩
      · rintro y ⟨⟩
        rwa [String.toList_ofList]
      · rw [heq, optionalText, String.toList_ofList, List.append_assoc, List.append_assoc]

theorem optionalPart_optionalText {part : List Char → Option (List Char × List Char)}
    {w v : String} {r : List Char} {o : Option String} (hnone : part r = none)
    (hpart : ∀ x ∈ o, part (w.toList ++ (x.toList ++ (v.toList ++ r))) = some (x.toList, r)) :
    optionalPart part (optionalText w o v ++ r) = (o, r) := by
  cases o with
  | none => rw [optionalText, List.nil_append, optionalPart, hnone]
  | some x =>
      rw [optionalText, List.append_assoc, List.append_assoc, optionalPart, hpart x rfl]
      simp only [String.ofList_toList]

theorem after_flagText_append_eq_none {w v : String} {r : List Char}
    (hw : ¬ w.toList <+: v.toList) (hv : ¬ v.toList <+: w.toList) (hr : after w r = none)
    (b : Bool) : after w (flagText v b ++ r) = none := by
  cases b with
  | false => exact hr
  | true => exact after_append_eq_none hw hv r

theorem after_optionalText_append_eq_none {w v : String} {r : List Char}
    (hw : ¬ w.toList <+: v.toList) (hv : ¬ v.toList <+: w.toList) (hr : after w r = none)
    (part : Option String) (behind : String) : after w (optionalText v part behind ++ r) = none := by
  cases part with
  | none => exact hr
  | some text =>
      rw [optionalText, List.append_assoc]
      exact after_append_eq_none hw hv _

end SchemaDiagram.Ddl

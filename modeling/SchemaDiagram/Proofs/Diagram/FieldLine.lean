import SchemaDiagram.Proofs.Diagram.Fidelity

namespace SchemaDiagram

open Text Ddl

theorem infix_append_iff_of_not_mem {α : Type} {a : α} {u : List α} (h : a ∉ u) (w v : List α) :
    (a :: w) <:+: u ++ v ↔ (a :: w) <:+: v := by
  induction u with
  | nil => rfl
  | cons b u ih =>
      rw [List.mem_cons, not_or] at h
      rw [List.cons_append, List.infix_cons_iff, ih h.2, List.cons_prefix_cons]
      exact or_iff_right fun hprefix => h.1 hprefix.1

theorem infix_tag_append_iff {α : Type} {a c : α} {u r : List α} (hu : a ∉ u) (hr : a ∉ c :: r)
    (w v : List α) : (a :: a :: w) <:+: (u ++ a :: c :: r) ++ v ↔ (a :: a :: w) <:+: v := by
  have hc : a ≠ c := fun heq => hr (heq ▸ List.mem_cons_self)
  have hskip : (a :: a :: w) <:+: a :: ((c :: r) ++ v) ↔ (a :: a :: w) <:+: (c :: r) ++ v := by
    rw [List.infix_cons_iff, List.cons_append, List.cons_prefix_cons, List.cons_prefix_cons]
    exact or_iff_right fun hprefix => hc hprefix.2.1
  rw [List.append_assoc, infix_append_iff_of_not_mem hu, List.cons_append, hskip,
    infix_append_iff_of_not_mem hr]

namespace Ddl

theorem lt_not_mem_of_forall {p : Char → Bool} (hp : p '<' = false) {s : List Char}
    (h : ∀ c ∈ s, p c = true) : '<' ∉ s := by
  intro hmem
  have hlt := h '<' hmem
  rw [hp] at hlt
  cases hlt

theorem lt_not_mem_of_isScaleText {x : List Char} (h : IsScaleText x) : '<' ∉ x := by
  cases h with
  | length hdigits => exact lt_not_mem_of_forall (by decide) hdigits
  | precision =>
      have hnumeral (n : Nat) : '<' ∉ Nat.toDigits 10 n :=
        lt_not_mem_of_forall (by decide) isDigit_of_mem_toDigits
      simp [hnumeral]

theorem lt_not_mem_optionalScale {o : Option String} (h : ∀ x ∈ o, IsScaleText x.toList) :
    '<' ∉ optionalText "(" o ")" := by
  cases o with
  | none => exact List.not_mem_nil
  | some x => simp [optionalText, lt_not_mem_of_isScaleText (h x rfl)]

theorem lt_not_mem_of_mem_typeKeywords : ∀ t ∈ typeKeywords, '<' ∉ t.toList := by
  decide

end Ddl

def Carries (mark line : String) : Prop := mark.toList <:+: line.toList

def isFieldLine (line : String) : Bool := "\t\x7bfield\x7d ".toList.isPrefixOf line.toList

def IsFieldOf (column line : String) : Prop :=
  ("\t\x7bfield\x7d <b>" ++ column ++ "</b>").toList <+: line.toList

theorem isFieldLine_of_isFieldOf {column line : String} (h : IsFieldOf column line) :
    isFieldLine line = true := by
  unfold isFieldLine
  rw [List.isPrefixOf_iff_prefix]
  refine List.IsPrefix.trans ?_ h
  simp only [String.toList_append, List.append_assoc]
  exact ⟨_, rfl⟩

namespace Column

variable {c : Column}

theorem infix_fieldLine_iff (h : c.WellFormed) (w : List Char) :
    ('<' :: '<' :: w) <:+: c.fieldLine.toList ↔
      ('<' :: '<' :: w) <:+: marks c.foreign c.primary := by
  obtain ⟨t, ht, htype⟩ := h.type
  have hopening : "\t\x7bfield\x7d <b>".toList =
      "\t\x7bfield\x7d ".toList ++ '<' :: 'b' :: ['>'] := rfl
  have hclosing : "</b>".toList = [] ++ '<' :: '/' :: ['b', '>'] := rfl
  have hname : '<' ∉ c.name.toList := lt_not_mem_of_forall (by decide) h.name.2
  rw [toList_fieldLine htype, hopening, infix_tag_append_iff (by decide) (by decide),
    infix_append_iff_of_not_mem hname, hclosing, infix_tag_append_iff (by decide) (by decide),
    infix_append_iff_of_not_mem (by decide),
    infix_append_iff_of_not_mem (lt_not_mem_of_mem_typeKeywords t ht),
    infix_append_iff_of_not_mem (lt_not_mem_optionalScale h.scale)]

theorem carries_iff (h : c.WellFormed) {mark : String} {w : List Char}
    (hmark : mark.toList = '<' :: '<' :: w) :
    Carries mark c.fieldLine ↔ mark.toList <:+: marks c.foreign c.primary := by
  rw [Carries, hmark]
  exact infix_fieldLine_iff h w

theorem carries_foreign_iff (h : c.WellFormed) :
    Carries "<<FK>>" c.fieldLine ↔ c.foreign = true := by
  have hmarks : ∀ f p, "<<FK>>".toList <:+: marks f p ↔ f = true := by decide +kernel
  rw [carries_iff h rfl]
  exact hmarks c.foreign c.primary

theorem carries_primary_iff (h : c.WellFormed) :
    Carries "<<PK>>" c.fieldLine ↔ c.primary = true := by
  have hmarks : ∀ f p, "<<PK>>".toList <:+: marks f p ↔ p = true := by decide +kernel
  rw [carries_iff h rfl]
  exact hmarks c.foreign c.primary

theorem eq_name_of_isFieldOf (h : c.WellFormed) {n : String}
    (hn : ∀ x ∈ n.toList, isNameChar x = true) (hfield : IsFieldOf n c.fieldLine) :
    n = c.name := by
  obtain ⟨t, _, htype⟩ := h.type
  obtain ⟨r, hr⟩ := hfield
  have hend (s : List Char) : Stops isNameChar ("</b>".toList ++ s) :=
    stops_toList_append (c := '<') (by decide) (by decide) s
  rw [toList_fieldLine htype, String.toList_append, String.toList_append, List.append_assoc,
    List.append_assoc, List.append_cancel_left_eq] at hr
  exact String.toList_inj.1 (append_inj_of_stops hn h.name.2 (hend _) (hend _) hr).1

theorem prefix_fieldLine (c : Column) :
    ("\t\x7bfield\x7d <b>" ++ c.name ++ "</b>" ++ c.typeText).toList <+: c.fieldLine.toList := by
  unfold fieldLine
  simp only [String.toList_append, List.append_assoc, List.prefix_append_right_inj]
  exact List.prefix_append _ _

theorem isFieldOf_fieldLine (c : Column) : IsFieldOf c.name c.fieldLine := by
  obtain ⟨r, hr⟩ := c.prefix_fieldLine
  refine ⟨c.typeText.toList ++ r, ?_⟩
  rw [← hr]
  simp only [String.toList_append, List.append_assoc]

end Column

end SchemaDiagram

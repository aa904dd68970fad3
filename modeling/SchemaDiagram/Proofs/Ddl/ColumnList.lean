import SchemaDiagram.Ddl.ColumnList
import SchemaDiagram.Proofs.Ddl.Name

namespace SchemaDiagram.Ddl

open Text

inductive QuotedTail : List Char → List (List Char) → Prop
  | nil : QuotedTail [] []
  | cons {n gap text : List Char} {names : List (List Char)} : IsKeyName n →
      onlyBlanks gap = true → QuotedTail text names →
      QuotedTail (',' :: (gap ++ (ticked n ++ text))) (n :: names)

inductive QuotedList : List Char → List (List Char) → Prop
  | mk {n text : List Char} {names : List (List Char)} : IsKeyName n → QuotedTail text names →
      QuotedList (ticked n ++ text) (n :: names)

theorem quotedText_eq_some_iff {s text r : List Char} :
    quotedText s = some (text, r) ↔ ∃ n, IsKeyName n ∧ text = ticked n ∧ s = ticked n ++ r := by
  rw [quotedText, Option.map_eq_some_iff]
  constructor
  · rintro ⟨⟨n, r'⟩, hn, heq⟩
    obtain ⟨rfl, rfl⟩ := Prod.mk.inj heq
    obtain ⟨hkey, hs⟩ := keyName_eq_some_iff.1 hn
    exact ⟨n, hkey, rfl, hs⟩
  · rintro ⟨n, hkey, rfl, rfl⟩
    exact ⟨(n, r), keyName_ticked_append hkey r, rfl⟩

theorem quotedListTail_cons {r name rest : List Char}
    (h : quotedText (skipBlanks r) = some (name, rest)) :
    quotedListTail (',' :: r) =
      (',' :: (r.takeWhile isBlank ++ (name ++ (quotedListTail rest).1)),
        (quotedListTail rest).2) := by
  rw [quotedListTail]
  split
  · rename_i name' rest' h'
    obtain ⟨rfl, rfl⟩ := Prod.mk.inj (Option.some.inj (h.symm.trans h'))
    simp only [List.cons_append, List.append_assoc]
  · rename_i h'
    rw [h] at h'
    cases h'

theorem quotedListTail_sound (s : List Char) :
    ∃ names, QuotedTail (quotedListTail s).1 names ∧
      s = (quotedListTail s).1 ++ (quotedListTail s).2 := by
  fun_induction quotedListTail s with
  | case1 r name rest h tail ih =>
      obtain ⟨names, htail, hrest⟩ := ih
      obtain ⟨n, hkey, rfl, hskip⟩ := quotedText_eq_some_iff.1 h
      refine ⟨n :: names, ?_, ?_⟩
      · simp only [List.cons_append, List.append_assoc]
        exact .cons hkey (onlyBlanks_takeWhile r) htail
      · simp only [List.cons_append, List.append_assoc]
        rw [← hrest, ← hskip, takeWhile_append_skipBlanks]
  | case2 => exact ⟨[], .nil, rfl⟩
  | case3 => exact ⟨[], .nil, rfl⟩

theorem quotedListTail_complete {text r : List Char} {names : List (List Char)}
    (h : QuotedTail text names) (hr : Stops (· == ',') r) :
    quotedListTail (text ++ r) = (text, r) := by
  induction h with
  | nil =>
      rw [List.nil_append, quotedListTail]
      · intro t ht
        have hc := hr ',' (by rw [ht]; rfl)
        cases hc
  | @cons n gap text names hkey hgap htail ih =>
      have hskip : skipBlanks (gap ++ (ticked n ++ (text ++ r))) = ticked n ++ (text ++ r) :=
        skipBlanks_append_of_stops hgap (stops_ticked_append (by decide) n _)
      have hblanks : (gap ++ (ticked n ++ (text ++ r))).takeWhile isBlank = gap :=
        takeWhile_append_of_stops (forall_of_onlyBlanks hgap)
          (stops_ticked_append (by decide) n _)
      have hquoted : quotedText (skipBlanks (gap ++ (ticked n ++ (text ++ r)))) =
          some (ticked n, text ++ r) :=
        quotedText_eq_some_iff.2 ⟨n, hkey, rfl, hskip⟩
      rw [List.cons_append, List.append_assoc, List.append_assoc, quotedListTail_cons hquoted,
        hblanks, ih]

theorem quotedList_sound {s text r : List Char} (h : quotedList s = some (text, r)) :
    ∃ names, QuotedList text names ∧ s = text ++ r := by
  obtain ⟨⟨t, u⟩, ht, heq⟩ := Option.map_eq_some_iff.1 h
  obtain ⟨rfl, rfl⟩ := Prod.mk.inj heq
  obtain ⟨n, hkey, rfl, rfl⟩ := quotedText_eq_some_iff.1 ht
  obtain ⟨names, htail, hrest⟩ := quotedListTail_sound u
  exact ⟨n :: names, .mk hkey htail, by rw [List.append_assoc, ← hrest]⟩

theorem quotedList_complete {text r : List Char} {names : List (List Char)}
    (h : QuotedList text names) (hr : Stops (· == ',') r) :
    quotedList (text ++ r) = some (text, r) := by
  obtain ⟨hkey, htail⟩ := h
  rename_i n text names
  rw [quotedList, List.append_assoc, quotedText_eq_some_iff.2 ⟨n, hkey, rfl, rfl⟩,
    Option.map_some, quotedListTail_complete htail hr]

theorem reverse_ticked (n : List Char) : (ticked n).reverse = ticked n.reverse := by
  simp [ticked]

theorem bareName_eq_strip (s : List Char) :
    bareName s = strip (· == tick) (strip isBlank s) := rfl

theorem stops_bareName (s : List Char) : Stops (· == tick) (bareName s) := stops_strip _ _

theorem stops_reverse_bareName (s : List Char) : Stops (· == tick) (bareName s).reverse :=
  stops_reverse_strip _ _

theorem bareName_subset (s : List Char) : bareName s ⊆ s :=
  List.Subset.trans (strip_subset _ _) (strip_subset _ _)

theorem bareName_padded {b n e : List Char} (hb : onlyBlanks b = true) (he : onlyBlanks e = true)
    (hn : Stops (· == tick) n) (hr : Stops (· == tick) n.reverse) :
    bareName (b ++ (ticked n ++ e)) = n := by
  have htick : ∀ c ∈ [tick], (c == tick) = true := by simp
  have hticked (m : List Char) : Stops isBlank (ticked m) := stops_cons (by decide) _
  have hblanks : strip isBlank (b ++ (ticked n ++ e)) = ticked n :=
    strip_append (forall_of_onlyBlanks hb) (forall_of_onlyBlanks he) (hticked n)
      (reverse_ticked n ▸ hticked n.reverse)
  have hquotes : strip (· == tick) ([tick] ++ (n ++ [tick])) = n :=
    strip_append htick htick hn hr
  rw [bareName_eq_strip, hblanks]
  exact hquotes

theorem comma_not_mem_padded {b n e : List Char} (hb : onlyBlanks b = true)
    (he : onlyBlanks e = true) (hn : ',' ∉ n) : ',' ∉ b ++ (ticked n ++ e) := by
  have hblank {m : List Char} (hm : onlyBlanks m = true) : ',' ∉ m :=
    fun hmem => absurd (forall_of_onlyBlanks hm ',' hmem) (by decide)
  have htick : ',' ∉ [tick] := by decide
  intro hmem
  rcases List.mem_append.1 hmem with hc | hc
  · exact hblank hb hc
  rcases List.mem_append.1 hc with hc | hc
  · rcases List.mem_append.1 hc with hc | hc
    · exact List.not_mem_cons_of_ne_of_not_mem (by decide) hn hc
    · exact htick hc
  · exact hblank he hc

section KeyNames

variable {gap n : List Char} (hgap : onlyBlanks gap = true) (hn : ∀ c ∈ n, isNameChar c = true)

include hgap hn

theorem comma_not_mem_append_ticked : ',' ∉ gap ++ ticked n := by
  have hcomma : ',' ∉ n := fun hmem => absurd (hn ',' hmem) (by decide)
  simpa using comma_not_mem_padded hgap (e := []) rfl hcomma

theorem bareName_append_ticked : bareName (gap ++ ticked n) = n := by
  have hstop {m : List Char} (hm : ∀ c ∈ m, isNameChar c = true) : Stops (· == tick) m := by
    intro c hc
    exact beq_eq_false_iff_ne.2
      (ne_of_isNameChar (hm c (List.mem_of_mem_head? hc)) isNameChar_tick)
  have hreverse : Stops (· == tick) n.reverse := hstop fun c hc => hn c (List.mem_reverse.1 hc)
  simpa using bareName_padded hgap (e := []) rfl (hstop hn) hreverse

end KeyNames

theorem map_bareName_splitOn {text pre : List Char} {names : List (List Char)}
    (h : QuotedTail text names) (hpre : ',' ∉ pre) :
    ((pre ++ text).splitOn ',').map bareName = bareName pre :: names := by
  induction h generalizing pre with
  | nil => rw [List.append_nil, List.splitOn_eq_singleton hpre, List.map_singleton]
  | @cons n gap text names hkey hgap htail ih =>
      have hmem : ',' ∉ gap ++ ticked n := comma_not_mem_append_ticked hgap hkey.2
      rw [List.splitOn_append_cons_self_of_not_mem hpre, List.map_cons, ← List.append_assoc,
        ih hmem, bareName_append_ticked hgap hkey.2]

theorem columnNames_of_quotedList {text : List Char} {names : List (List Char)}
    (h : QuotedList text names) : columnNames text = names.filter (· ≠ []) := by
  obtain ⟨hkey, htail⟩ := h
  rename_i n text names
  have hgap : onlyBlanks [] = true := rfl
  have hmem := comma_not_mem_append_ticked hgap hkey.2
  have hfirst := bareName_append_ticked hgap hkey.2
  rw [List.nil_append] at hmem hfirst
  rw [columnNames, map_bareName_splitOn htail hmem, hfirst]

end SchemaDiagram.Ddl

import SchemaDiagram.Text.Lines

namespace SchemaDiagram.Text

@[simp] theorem unlines_nil : unlines [] = "" := String.join_nil

theorem unlines_cons (l : String) (ls : List String) :
    unlines (l :: ls) = l ++ "\n" ++ unlines ls := by
  simp only [unlines, List.map_cons, String.join_cons]

theorem unlines_append (ls ms : List String) : unlines (ls ++ ms) = unlines ls ++ unlines ms := by
  simp only [unlines, List.map_append, String.join_append]

theorem unlines_eq_intercalate {ls : List String} (h : ls ≠ []) :
    unlines ls = "\n".intercalate ls ++ "\n" := by
  induction ls with
  | nil => exact absurd rfl h
  | cons l ls ih =>
      cases ls with
      | nil => simp only [unlines_cons, unlines_nil, String.intercalate_singleton, String.append_empty]
      | cons m ls =>
          rw [unlines_cons, ih (List.cons_ne_nil m ls), String.intercalate_cons_cons]
          simp only [String.append_assoc]

theorem join_map_unlines {α : Type} (f : α → List String) (xs : List α) :
    String.join (xs.map fun x => unlines (f x)) = unlines (xs.flatMap f) := by
  induction xs with
  | nil => rfl
  | cons x xs ih =>
      rw [List.map_cons, String.join_cons, ih, List.flatMap_cons, unlines_append]

def IsLine (l : List Char) : Prop := '\n' ∉ l ∧ l.getLast? ≠ some '\r'

instance : DecidablePred IsLine := fun l => inferInstanceAs (Decidable ('\n' ∉ l ∧ _))

theorem isLine_nil : IsLine [] := by decide

theorem isLine_append {s t : List Char} (hs : IsLine s) (ht : IsLine t) : IsLine (s ++ t) := by
  refine ⟨?_, ?_⟩
  · intro hmem
    rcases List.mem_append.1 hmem with h | h
    · exact hs.1 h
    · exact ht.1 h
  · rw [List.getLast?_append]
    cases hlast : t.getLast? with
    | none => exact hs.2
    | some c =>
        rw [Option.some_or, ← hlast]
        exact ht.2

theorem isLine_of_forall {p : Char → Bool} {l : List Char} (h : ∀ c ∈ l, p c = true)
    (hfeed : p '\n' = false) (hreturn : p '\r' = false) : IsLine l := by
  refine ⟨?_, ?_⟩
  · intro hmem
    rw [h '\n' hmem] at hfeed
    cases hfeed
  · intro hlast
    rw [h '\r' (List.mem_of_getLast? hlast)] at hreturn
    cases hreturn

theorem lines_append_lineFeed {l : List Char} (h : IsLine l) (r : List Char) :
    lines (l ++ '\n' :: r) = l :: lines r := by
  obtain ⟨hfeed, hreturn⟩ := h
  induction l with
  | nil => simp [lines]
  | cons c l ih =>
      obtain ⟨hc, hl⟩ := not_or.1 (mt List.mem_cons.2 hfeed)
      cases l with
      | nil =>
          -- A carriage return here would be taken along with the line feed.
          have hne : c ≠ '\r' := fun heq => hreturn (congrArg some heq)
          rw [List.cons_append, List.nil_append, lines, if_neg (Ne.symm hc)]
          · simp [lines]
          · exact fun _ heq _ => hne heq
      | cons d l =>
          have hd : d ≠ '\n' := fun heq => hl (heq ▸ List.mem_cons_self)
          rw [List.cons_append, lines, if_neg (Ne.symm hc),
            ih hl (by rwa [List.getLast?_cons_cons] at hreturn)]
          exact fun _ _ heq => hd (List.cons.inj heq).1

theorem lineFeed_not_mem_of_mem_lines {s : List Char} : ∀ l ∈ lines s, '\n' ∉ l := by
  fun_induction lines s with
  | case1 => exact fun _ hl => nomatch hl
  | case2 r ih => exact List.forall_mem_cons.2 ⟨List.not_mem_nil, ih⟩
  | case3 r _ ih => exact List.forall_mem_cons.2 ⟨List.not_mem_nil, ih⟩
  | case4 c r _ hc =>
      refine List.forall_mem_singleton.2 ?_
      exact fun hmem => hc (List.mem_singleton.1 hmem).symm
  | case5 c r _ hc l ls heq ih =>
      rw [heq] at ih
      obtain ⟨hl, hls⟩ := List.forall_mem_cons.1 ih
      refine List.forall_mem_cons.2 ⟨?_, hls⟩
      rintro (_ | ⟨_, hmem⟩)
      · exact hc rfl
      · exact hl hmem

theorem lines_eq_nil_iff {s : List Char} : lines s = [] ↔ s = [] := by
  fun_cases lines s <;> simp_all

def EndsLine (s : List Char) : Prop := ∀ c ∈ s.getLast?, c = '\n'

theorem EndsLine.tail {c : Char} {s : List Char} (h : EndsLine (c :: s)) : EndsLine s := by
  intro d hd
  cases s with
  | nil => cases hd
  | cons e s => exact h d (by rwa [List.getLast?_cons_cons])

theorem lines_append {s : List Char} (h : EndsLine s) (r : List Char) :
    lines (s ++ r) = lines s ++ lines r := by
  fun_induction lines s with
  | case1 => rfl
  | case2 s ih => rw [List.cons_append, List.cons_append, lines, ih h.tail.tail, List.cons_append]
  | case3 s hreturn ih =>
      rw [List.cons_append, lines, if_pos rfl, ih h.tail, List.cons_append]
      exact fun _ heq _ => absurd heq (by decide)
  | case4 c s hreturn hc hnil ih =>
      rw [lines_eq_nil_iff.1 hnil] at h
      exact absurd (h c rfl) hc
  | case5 c s hreturn hc l ls hlines ih =>
      have hs : s ≠ [] := by
        rintro rfl
        cases hlines
      -- The character before the cut is a line feed, so no carriage return stands right before it.
      obtain ⟨d, s, rfl⟩ := List.exists_cons_of_ne_nil hs
      rw [List.cons_append, lines, if_neg hc, ih h.tail, hlines]
      · rfl
      · rintro r' rfl heq
        exact hreturn s rfl (by rw [(List.cons.inj heq).1])

theorem lines_toList_unlines {ls : List String} (h : ∀ l ∈ ls, IsLine l.toList) :
    lines (unlines ls).toList = ls.map String.toList := by
  induction ls with
  | nil => rfl
  | cons l ls ih =>
      obtain ⟨hl, hls⟩ := List.forall_mem_cons.1 h
      rw [unlines_cons, String.toList_append, String.toList_append, List.append_assoc]
      exact (lines_append_lineFeed hl _).trans (congrArg (l.toList :: ·) (ih hls))

theorem unlines_inj {ls ms : List String} (hl : ∀ l ∈ ls, IsLine l.toList)
    (hm : ∀ l ∈ ms, IsLine l.toList) (h : unlines ls = unlines ms) : ls = ms := by
  have hlists : ls.map String.toList = ms.map String.toList := by
    rw [← lines_toList_unlines hl, h, lines_toList_unlines hm]
  exact (List.map_inj_right fun _ _ => String.toList_inj.1).1 hlists

end SchemaDiagram.Text

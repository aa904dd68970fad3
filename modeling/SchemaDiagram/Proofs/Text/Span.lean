import Mathlib.Data.List.DropRight
import SchemaDiagram.Text.Blank

namespace SchemaDiagram.Text

section Stops

variable {α : Type} {p : α → Bool} {a b r s : List α}

/-- A run of members of the class that ends right before this list cannot go on into it. -/
def Stops (p : α → Bool) (s : List α) : Prop := ∀ c ∈ s.head?, p c = false

theorem stops_nil (p : α → Bool) : Stops p [] := by
  intro c hc
  cases hc

theorem stops_cons {c : α} (h : p c = false) (s : List α) : Stops p (c :: s) := by
  intro d hd
  rw [← Option.mem_some.1 hd]
  exact h

theorem stops_append (hs : Stops p s) (hr : Stops p r) : Stops p (s ++ r) := by
  cases s with
  | nil => exact hr
  | cons c s => exact stops_cons (hs c rfl) (s ++ r)

theorem stops_of_append (h : Stops p (s ++ r)) : Stops p s := by
  cases s with
  | nil => exact stops_nil p
  | cons c s => exact stops_cons (h c rfl) s

theorem stops_beq_iff [BEq α] [LawfulBEq α] {c : α} :
    Stops (· == c) s ↔ s.head? ≠ some c := by
  simp only [Stops, Option.mem_def, beq_eq_false_iff_ne]
  exact ⟨fun h heq => h c heq rfl, fun h d hd heq => h (heq ▸ hd)⟩

theorem stops_reverse_beq_iff [BEq α] [LawfulBEq α] {c : α} :
    Stops (· == c) s.reverse ↔ s.getLast? ≠ some c := by
  rw [stops_beq_iff, List.head?_reverse]

theorem stops_dropWhile (p : α → Bool) (s : List α) : Stops p (s.dropWhile p) := by
  intro c hc
  have hnot := List.head?_dropWhile_not p s
  rw [Option.mem_def.1 hc] at hnot
  simpa using hnot

theorem takeWhile_append_of_stops (ha : ∀ c ∈ a, p c = true) (hr : Stops p r) :
    (a ++ r).takeWhile p = a := by
  rw [List.takeWhile_append_of_pos ha]
  cases r with
  | nil => exact List.append_nil a
  | cons c r =>
      have hc : p c = false := hr c rfl
      rw [List.takeWhile_cons_of_neg (by simp [hc]), List.append_nil]

theorem dropWhile_append_of_stops (ha : ∀ c ∈ a, p c = true) (hr : Stops p r) :
    (a ++ r).dropWhile p = r := by
  rw [List.dropWhile_append_of_pos ha]
  cases r with
  | nil => rfl
  | cons c r =>
      have hc : p c = false := hr c rfl
      rw [List.dropWhile_cons_of_neg (by simp [hc])]

theorem append_inj_of_stops (ha : ∀ c ∈ a, p c = true) (hb : ∀ c ∈ b, p c = true)
    (hr : Stops p r) (hs : Stops p s) (h : a ++ r = b ++ s) : a = b ∧ r = s := by
  have htake : a = b := by
    rw [← takeWhile_append_of_stops ha hr, h, takeWhile_append_of_stops hb hs]
  have hdrop : r = s := by
    rw [← dropWhile_append_of_stops ha hr, h, dropWhile_append_of_stops hb hs]
  exact ⟨htake, hdrop⟩

theorem exists_append_stops (p : α → Bool) (s : List α) :
    ∃ a r, s = a ++ r ∧ (∀ c ∈ a, p c = true) ∧ Stops p r :=
  ⟨s.takeWhile p, s.dropWhile p, List.takeWhile_append_dropWhile.symm,
    List.all_eq_true.1 List.all_takeWhile, stops_dropWhile p s⟩

def strip (p : α → Bool) (s : List α) : List α := (s.dropWhile p).rdropWhile p

theorem strip_append (ha : ∀ c ∈ a, p c = true) (hb : ∀ c ∈ b, p c = true) (hs : Stops p s)
    (hr : Stops p s.reverse) : strip p (a ++ (s ++ b)) = s := by
  cases s with
  | nil =>
      -- Nothing marks where the first run ends and the second one begins: they are one run.
      have hall : ∀ c ∈ a ++ b, p c = true := List.forall_mem_append.2 ⟨ha, hb⟩
      rw [strip, List.nil_append, List.dropWhile_eq_nil_iff.2 hall, List.rdropWhile_nil]
  | cons c s =>
      have hstop : Stops p (c :: s ++ b) := stops_cons (hs c rfl) (s ++ b)
      have hb' : ∀ c ∈ b.reverse, p c = true := fun c hc => hb c (List.mem_reverse.1 hc)
      rw [strip, dropWhile_append_of_stops ha hstop, List.rdropWhile, List.reverse_append,
        dropWhile_append_of_stops hb' hr, List.reverse_reverse]

theorem stops_strip (p : α → Bool) (s : List α) : Stops p (strip p s) := by
  have hstop := stops_dropWhile p s
  obtain ⟨r, hr⟩ := List.rdropWhile_prefix p (s.dropWhile p)
  rw [← hr] at hstop
  exact stops_of_append hstop

theorem stops_reverse_strip (p : α → Bool) (s : List α) : Stops p (strip p s).reverse := by
  rw [strip, List.rdropWhile, List.reverse_reverse]
  exact stops_dropWhile p (s.dropWhile p).reverse

theorem strip_subset (p : α → Bool) (s : List α) : strip p s ⊆ s :=
  List.Subset.trans (List.rdropWhile_prefix p _).subset (List.dropWhile_sublist p).subset

end Stops

section Pieces

variable {α : Type} [BEq α] {x : α} {piece s : List α}

theorem length_splitOn (x : α) (s : List α) : (s.splitOn x).length = s.count x + 1 := by
  induction s with
  | nil => rfl
  | cons c s ih =>
      rw [List.splitOn_cons_eq_if_modifyHead, List.count_cons]
      split
      · rw [List.length_cons, ih]
      · rw [List.length_modifyHead, ih, Nat.add_zero]

theorem of_mem_splitOn [LawfulBEq α] (h : piece ∈ s.splitOn x) : x ∉ piece ∧ piece ⊆ s := by
  induction s generalizing piece with
  | nil =>
      obtain rfl := List.mem_singleton.1 h
      exact ⟨List.not_mem_nil, List.nil_subset _⟩
  | cons c s ih =>
      rw [List.splitOn_cons_eq_if_modifyHead] at h
      split at h
      next =>
        rcases List.mem_cons.1 h with rfl | h
        · exact ⟨List.not_mem_nil, List.nil_subset _⟩
        · exact ⟨(ih h).1, List.subset_cons_of_subset c (ih h).2⟩
      next hc =>
        obtain ⟨first, pieces, hpieces⟩ := List.exists_cons_of_ne_nil (List.splitOn_ne_nil x s)
        rw [hpieces] at h ih
        rcases List.mem_cons.1 h with rfl | h
        · obtain ⟨hnot, hsub⟩ := ih List.mem_cons_self
          have hne : x ≠ c := fun heq => hc (beq_iff_eq.2 heq.symm)
          exact ⟨List.not_mem_cons_of_ne_of_not_mem hne hnot, List.cons_subset_cons c hsub⟩
        · have hpiece := ih (List.mem_cons_of_mem first h)
          exact ⟨hpiece.1, List.subset_cons_of_subset c hpiece.2⟩

end Pieces

theorem forall_of_onlyBlanks {b : List Char} (h : onlyBlanks b = true) :
    ∀ c ∈ b, isBlank c = true :=
  List.all_eq_true.1 h

theorem onlyBlanks_takeWhile (s : List Char) : onlyBlanks (s.takeWhile isBlank) = true :=
  List.all_takeWhile

theorem takeWhile_append_skipBlanks (s : List Char) : s.takeWhile isBlank ++ skipBlanks s = s :=
  List.takeWhile_append_dropWhile

theorem skipBlanks_append_of_stops {b s : List Char} (hb : onlyBlanks b = true)
    (hs : Stops isBlank s) : skipBlanks (b ++ s) = s :=
  dropWhile_append_of_stops (forall_of_onlyBlanks hb) hs

theorem skipBlanks_of_stops {s : List Char} (hs : Stops isBlank s) : skipBlanks s = s :=
  skipBlanks_append_of_stops (b := []) rfl hs

end SchemaDiagram.Text

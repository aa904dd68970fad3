import Mathlib.Data.List.Basic
import SchemaDiagram.Proofs.Ddl.StatementLine

namespace SchemaDiagram.Ddl

def extent (lines : List String) : Nat :=
  if lines.findIdx closesStatement < lines.findIdx startsStatement then
    lines.findIdx closesStatement + 1
  else lines.findIdx startsStatement

theorem extent_cons (l : String) (ls : List String) :
    extent (l :: ls) =
      if startsStatement l then 0 else if closesStatement l then 1 else extent ls + 1 := by
  simp only [extent, List.findIdx_cons]
  cases hstart : startsStatement l with
  | true => simp
  | false =>
      cases hclose : closesStatement l with
      | true => simp
      | false =>
          simp only [cond_false, Nat.add_lt_add_iff_right, Bool.false_eq_true, if_false]
          split <;> rfl

theorem startsStatement_of_mem_take_extent (ls : List String) :
    ∀ l ∈ ls.take (extent ls), startsStatement l = false := by
  induction ls with
  | nil => simp
  | cons l ls ih =>
      rw [extent_cons]
      cases hstart : startsStatement l with
      | true => simp
      | false =>
          cases closesStatement l with
          | true => simp [hstart]
          | false => simpa [hstart] using ih

theorem closesStatement_of_mem_dropLast_take_extent (ls : List String) :
    ∀ l ∈ (ls.take (extent ls)).dropLast, closesStatement l = false := by
  induction ls with
  | nil => simp
  | cons l ls ih =>
      rw [extent_cons]
      cases startsStatement l with
      | true => simp
      | false =>
          cases hclose : closesStatement l with
          | true => simp
          | false =>
              simp only [Bool.false_eq_true, if_false, List.take_succ_cons]
              cases htake : ls.take (extent ls) with
              | nil => simp
              | cons m ms =>
                  rw [htake] at ih
                  simpa [hclose] using ih

theorem statements_cons_of_not_starts {l : String} (h : startsStatement l = false)
    (ls : List String) : statements (l :: ls) = statements ls := by
  simp [statements, statementsFrom, h]

theorem statements_append_of_not_starts {xs : List String}
    (h : ∀ l ∈ xs, startsStatement l = false) (ys : List String) :
    statements (xs ++ ys) = statements ys := by
  induction xs with
  | nil => rfl
  | cons x xs ih =>
      obtain ⟨hx, hxs⟩ := List.forall_mem_cons.1 h
      rw [List.cons_append, statements_cons_of_not_starts hx, ih hxs]

theorem statementsFrom_some (group ls : List String) :
    statementsFrom (some group) ls =
      (group ++ ls.take (extent ls)) :: statements (ls.drop (extent ls)) := by
  induction ls generalizing group with
  | nil => simp [statementsFrom, statements]
  | cons l ls ih =>
      rw [extent_cons, statementsFrom]
      cases hstart : startsStatement l with
      | true => simp [statements, statementsFrom, hstart]
      | false =>
          cases closesStatement l with
          | true => simp [statements]
          | false => simp [ih]

theorem statements_cons_of_starts {l : String} (h : startsStatement l = true)
    (ls : List String) :
    statements (l :: ls) = (l :: ls.take (extent ls)) :: statements ls := by
  have hrest : statements ls = statements (ls.drop (extent ls)) := by
    conv_lhs => rw [← List.take_append_drop (extent ls) ls]
    exact statements_append_of_not_starts (startsStatement_of_mem_take_extent ls) _
  rw [hrest]
  simpa [statements, statementsFrom, h] using statementsFrom_some [l] ls

instance : DecidablePred IsStart := fun _ => decidable_of_iff _ startsStatement_iff

instance : DecidablePred IsCloser := fun _ => decidable_of_iff _ closesStatement_iff

theorem decide_isStart : (fun l => decide (IsStart l)) = startsStatement := by
  funext l
  rw [Bool.eq_iff_iff, decide_eq_true_iff, startsStatement_iff]

theorem decide_isCloser : (fun l => decide (IsCloser l)) = closesStatement := by
  funext l
  rw [Bool.eq_iff_iff, decide_eq_true_iff, closesStatement_iff]

def firstAfter (p : String → Prop) [DecidablePred p] (lines : List String) (i : Nat) : Nat :=
  i + 1 + (lines.drop (i + 1)).findIdx (p ·)

/-- The index of the last line of the statement that starts at an index: its first closer, unless
the next statement starts or the lines end before that. -/
def lastIndex (lines : List String) (i : Nat) : Nat :=
  if firstAfter IsCloser lines i < firstAfter IsStart lines i then firstAfter IsCloser lines i
  else firstAfter IsStart lines i - 1

theorem firstAfter_cons_succ (p : String → Prop) [DecidablePred p] (l : String) (ls : List String)
    (i : Nat) : firstAfter p (l :: ls) (i + 1) = firstAfter p ls i + 1 := by
  simp only [firstAfter, List.drop_succ_cons]
  omega

theorem lastIndex_cons_succ (l : String) (ls : List String) (i : Nat) :
    lastIndex (l :: ls) (i + 1) = lastIndex ls i + 1 := by
  have hpos : 0 < firstAfter IsStart ls i := by
    unfold firstAfter
    omega
  simp only [lastIndex, firstAfter_cons_succ, Nat.add_lt_add_iff_right]
  split
  · rfl
  · omega

theorem lastIndex_cons_zero (l : String) (ls : List String) :
    lastIndex (l :: ls) 0 = extent ls := by
  simp only [lastIndex, firstAfter, extent, decide_isStart, decide_isCloser, List.drop_succ_cons,
    List.drop_zero]
  split <;> split <;> omega

theorem statements_eq_map_extract (lines : List String) :
    statements lines =
      (lines.findIdxs (IsStart ·)).map fun i => lines.extract i (lastIndex lines i + 1) := by
  rw [decide_isStart]
  induction lines with
  | nil => rfl
  | cons l ls ih =>
      have hshift : ((ls.findIdxs startsStatement 1).map fun i =>
          (l :: ls).extract i (lastIndex (l :: ls) i + 1)) = statements ls := by
        rw [List.findIdxs_start, ih, List.map_map]
        apply List.map_congr_left
        intro i _
        simp [lastIndex_cons_succ, List.extract]
      rw [List.findIdxs_cons]
      cases hstart : startsStatement l with
      | true =>
          rw [statements_cons_of_starts hstart, if_pos rfl, List.map_cons, hshift]
          simp [lastIndex_cons_zero, List.extract]
      | false =>
          rw [statements_cons_of_not_starts hstart]
          simpa using hshift.symm

theorem le_lastIndex (lines : List String) (i : Nat) : i ≤ lastIndex lines i := by
  unfold lastIndex firstAfter
  split <;> omega

theorem lastIndex_lt_firstAfter (lines : List String) (i : Nat) :
    lastIndex lines i < firstAfter IsStart lines i := by
  unfold lastIndex
  split
  · assumption
  · unfold firstAfter
    omega

theorem lastIndex_lt_length {lines : List String} {i : Nat} (h : i < lines.length) :
    lastIndex lines i < lines.length := by
  have hfind : (lines.drop (i + 1)).findIdx (IsStart ·) ≤ (lines.drop (i + 1)).length :=
    List.findIdx_le_length
  have hlast := lastIndex_lt_firstAfter lines i
  rw [List.length_drop] at hfind
  unfold firstAfter at hlast
  omega

theorem firstAfter_le {p : String → Prop} [DecidablePred p] {lines : List String} {i k : Nat}
    (hik : i < k) (hk : k ∈ lines.findIdxs (p ·)) : firstAfter p lines i ≤ k := by
  obtain ⟨hlt, hp⟩ := List.mem_findIdxs_iff_exists_getElem_pos.1 hk
  by_contra hle
  unfold firstAfter at hle
  have hbefore : k - (i + 1) < (lines.drop (i + 1)).findIdx (p ·) := by omega
  have hindex : i + 1 + (k - (i + 1)) = k := by omega
  have hnot := List.not_of_lt_findIdx hbefore
  simp only [List.getElem_drop, hindex] at hnot
  rw [hp] at hnot
  cases hnot

theorem pairwise_lastIndex_lt (lines : List String) :
    (lines.findIdxs (IsStart ·)).Pairwise fun i k => lastIndex lines i < k := by
  refine List.pairwise_findIdxs.imp_of_mem ?_
  intro i k _ hk hik
  exact Nat.lt_of_lt_of_le (lastIndex_lt_firstAfter lines i) (firstAfter_le hik hk)

theorem shape_of_mem_statements {lines group : List String} (h : group ∈ statements lines) :
    ∃ first rest, group = first :: rest ∧ IsStart first ∧ (∀ l ∈ rest, ¬ IsStart l) ∧
      ∀ l ∈ group.dropLast, ¬ IsCloser l := by
  simp only [← startsStatement_iff, ← closesStatement_iff, Bool.not_eq_true]
  induction lines with
  | nil => cases h
  | cons l ls ih =>
      cases hstart : startsStatement l with
      | false =>
          rw [statements_cons_of_not_starts hstart] at h
          exact ih h
      | true =>
          rw [statements_cons_of_starts hstart] at h
          rcases List.mem_cons.1 h with rfl | h
          · refine ⟨l, ls.take (extent ls), rfl, hstart, ?_, ?_⟩
            · exact startsStatement_of_mem_take_extent ls
            · have hinner := closesStatement_of_mem_dropLast_take_extent ls
              have hfirst := closesStatement_of_startsStatement hstart
              cases htake : ls.take (extent ls) with
              | nil => simp
              | cons m ms =>
                  rw [htake] at hinner
                  simpa [hfirst] using hinner
          · exact ih h

theorem statements_segments (lines : List String) :
    statements lines = ((lines.findIdxs (IsStart ·)).map fun i =>
        lines.extract i (lastIndex lines i + 1)) ∧
      (∀ i ∈ lines.findIdxs (IsStart ·), i ≤ lastIndex lines i ∧
        lastIndex lines i < lines.length) ∧
      ((lines.findIdxs (IsStart ·)).Pairwise fun i k => lastIndex lines i < k) ∧
      (statements lines).flatten.Sublist lines ∧
      ∀ group ∈ statements lines, ∃ first rest, group = first :: rest ∧ IsStart first ∧
        (∀ l ∈ rest, ¬ IsStart l) ∧ ∀ l ∈ group.dropLast, ¬ IsCloser l := by
  refine ⟨statements_eq_map_extract lines, ?_, pairwise_lastIndex_lt lines, ?_, ?_⟩
  · intro i hi
    obtain ⟨hlt, _⟩ := List.mem_findIdxs_iff_exists_getElem_pos.1 hi
    exact ⟨le_lastIndex lines i, lastIndex_lt_length hlt⟩
  · exact flatten_statementsFrom_sublist none lines
  · exact fun group hgroup => shape_of_mem_statements hgroup

def mixedLines : List String := [
  "-- tables",
  "CREATE TABLE \x60a\x60 (",
  "  \x60id\x60 int,",
  "  create  Table\t\x60b\x60 (",
  "  \x60id\x60 int",
  " ) ENGINE=InnoDB;",
  ");",
  "CREATE TABLES"]

theorem mixedLines_segments :
    mixedLines.findIdxs (IsStart ·) = [1, 3] ∧
      statements mixedLines = [mixedLines.extract 1 3, mixedLines.extract 3 6] ∧
      (1 ≤ lastIndex mixedLines 1 ∧ lastIndex mixedLines 1 < 8) ∧
      (statements mixedLines).flatten.Sublist mixedLines ∧
      ∃ first rest, mixedLines.extract 3 6 = first :: rest ∧ IsStart first ∧
        (∀ l ∈ rest, ¬ IsStart l) ∧ ∀ l ∈ (mixedLines.extract 3 6).dropLast, ¬ IsCloser l := by
  have hstarts : mixedLines.findIdxs (IsStart ·) = [1, 3] := by decide +kernel
  have hlast : lastIndex mixedLines 1 = 2 ∧ lastIndex mixedLines 3 = 5 := by decide +kernel
  obtain ⟨hmap, hbounds, _, hsublist, hshape⟩ := statements_segments mixedLines
  rw [hstarts, List.map_cons, List.map_cons, List.map_nil, hlast.1, hlast.2] at hmap
  refine ⟨hstarts, hmap, ?_, hsublist, ?_⟩
  · exact hbounds 1 (by rw [hstarts]; decide)
  · exact hshape _ (by rw [hmap]; exact List.mem_cons_of_mem _ List.mem_cons_self)

end SchemaDiagram.Ddl

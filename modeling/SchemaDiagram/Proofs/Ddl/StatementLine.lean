import SchemaDiagram.Proofs.Ddl.Statement

namespace SchemaDiagram.Ddl

open Text

def InAnyCase (word : String) (s : List Char) : Prop := s.map Char.toUpper = word.toList

def IsStart (line : String) : Prop :=
  ∃ b create gap table r, onlyBlanks b = true ∧ InAnyCase "CREATE" create ∧ gap ≠ [] ∧
    onlyBlanks gap = true ∧ InAnyCase "TABLE" table ∧ atWordEnd r = true ∧
    line.toList = b ++ (create ++ (gap ++ (table ++ r)))

def IsCloser (line : String) : Prop :=
  ∃ b r, onlyBlanks b = true ∧ line.toList = b ++ ')' :: r

theorem afterAnyCase_eq_some_iff {w : String} {s r : List Char} :
    afterAnyCase w s = some r ↔ ∃ o, InAnyCase w o ∧ s = o ++ r := by
  rw [afterAnyCase, Option.ite_none_right_eq_some, Option.some_inj]
  constructor
  · rintro ⟨ho, rfl⟩
    exact ⟨s.take w.length, ho, (List.take_append_drop w.length s).symm⟩
  · rintro ⟨o, ho, rfl⟩
    have hlength : w.length = o.length := by
      rw [← String.length_toList, ← ho, List.length_map]
    rw [hlength, List.take_left, List.drop_left]
    exact ⟨ho, rfl⟩

theorem toUpper_of_isBlank {c : Char} (h : isBlank c = true) : c.toUpper = c := by
  simp only [isBlank, Bool.or_eq_true, Bool.and_eq_true, decide_eq_true_eq, beq_iff_eq] at h
  have ha : 'a'.val.toNat = 97 := rfl
  have hz : 'z'.val.toNat = 122 := rfl
  refine dif_neg ?_
  simp only [UInt32.le_iff_toNat_le, Char.toNat] at h ⊢
  omega

theorem stops_isBlank_of_inAnyCase {w : String} {o : List Char} {c : Char} (h : InAnyCase w o)
    (hw : w.toList.head? = some c) (hc : isBlank c = false) (r : List Char) :
    Stops isBlank (o ++ r) := by
  cases o with
  | nil =>
      rw [← h] at hw
      cases hw
  | cons d o =>
      rw [← h] at hw
      have hupper : d.toUpper = c := Option.some.inj hw
      apply stops_cons
      rw [Bool.eq_false_iff]
      intro hd
      rw [toUpper_of_isBlank hd] at hupper
      rw [hupper, hc] at hd
      cases hd

theorem startsStatement_iff {line : String} : startsStatement line = true ↔ IsStart line := by
  constructor
  · intro h
    unfold startsStatement at h
    split at h
    next c r hcreate =>
      rw [Bool.and_eq_true] at h
      obtain ⟨hc, hafter⟩ := h
      split at hafter
      next r' htable =>
        obtain ⟨create, hcreate, hline⟩ := afterAnyCase_eq_some_iff.1 hcreate
        obtain ⟨table, htable, hrest⟩ := afterAnyCase_eq_some_iff.1 htable
        refine ⟨line.toList.takeWhile isBlank, create, c :: r.takeWhile isBlank, table, r',
          onlyBlanks_takeWhile _, hcreate, List.cons_ne_nil _ _, ?_, htable, hafter, ?_⟩
        · rw [onlyBlanks, List.all_cons, hc, Bool.true_and]
          exact onlyBlanks_takeWhile r
        · rw [← hrest, List.cons_append, takeWhile_append_skipBlanks, ← hline,
            takeWhile_append_skipBlanks]
      next => cases hafter
    next => cases h
  · rintro ⟨b, create, gap, table, r, hb, hcreate, hne, hgap, htable, hend, hline⟩
    obtain ⟨c, gap, rfl⟩ := List.exists_cons_of_ne_nil hne
    rw [onlyBlanks, List.all_cons, Bool.and_eq_true] at hgap
    have hskip : skipBlanks line.toList = create ++ c :: (gap ++ (table ++ r)) := by
      rw [hline, List.cons_append]
      exact skipBlanks_append_of_stops hb
        (stops_isBlank_of_inAnyCase (c := 'C') hcreate (by decide) (by decide) _)
    have hskip' : skipBlanks (gap ++ (table ++ r)) = table ++ r :=
      skipBlanks_append_of_stops hgap.2
        (stops_isBlank_of_inAnyCase (c := 'T') htable (by decide) (by decide) _)
    rw [startsStatement, hskip, afterAnyCase_eq_some_iff.2 ⟨create, hcreate, rfl⟩]
    simp only [hgap.1, hskip', afterAnyCase_eq_some_iff.2 ⟨table, htable, rfl⟩, hend, Bool.and_self]

theorem closesStatement_iff {line : String} : closesStatement line = true ↔ IsCloser line := by
  rw [closesStatement, beq_iff_eq, List.head?_eq_some_iff]
  constructor
  · rintro ⟨r, hr⟩
    refine ⟨line.toList.takeWhile isBlank, r, onlyBlanks_takeWhile _, ?_⟩
    rw [← hr, takeWhile_append_skipBlanks]
  · rintro ⟨b, r, hb, hline⟩
    refine ⟨r, ?_⟩
    rw [hline]
    exact skipBlanks_append_of_stops hb (stops_cons (by decide) r)

theorem startsStatement_eq_false_iff {line : String} :
    startsStatement line = false ↔ ¬ IsStart line := by
  rw [← startsStatement_iff, Bool.not_eq_true]

theorem closesStatement_eq_false_iff {line : String} :
    closesStatement line = false ↔ ¬ IsCloser line := by
  rw [← closesStatement_iff, Bool.not_eq_true]

theorem closesStatement_of_startsStatement {line : String} (h : startsStatement line = true) :
    closesStatement line = false := by
  obtain ⟨b, create, gap, table, r, hb, hcreate, _, _, _, _, hline⟩ := startsStatement_iff.1 h
  rw [Bool.eq_false_iff]
  intro hclose
  rw [closesStatement, hline, skipBlanks_append_of_stops hb
    (stops_isBlank_of_inAnyCase (c := 'C') hcreate (by decide) (by decide) _)] at hclose
  cases create with
  | nil => cases hcreate
  | cons c create =>
      rw [List.cons_append, List.head?_cons, beq_iff_eq, Option.some_inj] at hclose
      subst hclose
      cases hcreate

end SchemaDiagram.Ddl

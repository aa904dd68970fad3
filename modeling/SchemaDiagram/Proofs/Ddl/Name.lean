import Mathlib.Data.List.Basic
import Mathlib.Data.Option.Basic
import SchemaDiagram.Ddl.Name
import SchemaDiagram.Proofs.Text.Span

namespace SchemaDiagram.Ddl

open Text

def ticked (n : List Char) : List Char := tick :: n ++ [tick]

def IsName (n : List Char) : Prop := n ≠ [] ∧ ∀ c ∈ n, isNameChar c = true

def IsKeyName (n : List Char) : Prop := n.length ≤ keyNameLimit ∧ ∀ c ∈ n, isNameChar c = true

theorem ne_of_isNameChar {c d : Char} (hc : isNameChar c = true) (hd : isNameChar d = false) :
    c ≠ d := by
  rintro rfl
  rw [hc] at hd
  cases hd

theorem ticked_append (n r : List Char) : ticked n ++ r = tick :: n ++ tick :: r := by
  simp only [ticked, List.cons_append, List.append_assoc, List.nil_append]

theorem stops_ticked_append {p : Char → Bool} (h : p tick = false) (n r : List Char) :
    Stops p (ticked n ++ r) := by
  rw [ticked_append]
  exact stops_cons h (n ++ tick :: r)

theorem declaredName_eq_some_iff {s n r : List Char} :
    declaredName s = some (n, r) ↔ IsName n ∧ s = ticked n ++ r := by
  rw [declaredName, Option.filter_eq_some_iff, quotedName_eq_some_iff, ticked_append,
    List.all_eq_true, IsName]
  simp only [ne_eq, decide_eq_true_eq]
  exact ⟨fun ⟨⟨hn, hs⟩, hne⟩ => ⟨⟨hne, hn⟩, hs⟩, fun ⟨⟨hne, hn⟩, hs⟩ => ⟨⟨hn, hs⟩, hne⟩⟩

theorem keyName_eq_some_iff {s n r : List Char} :
    keyName s = some (n, r) ↔ IsKeyName n ∧ s = ticked n ++ r := by
  rw [keyName, Option.filter_eq_some_iff, quotedName_eq_some_iff, ticked_append,
    List.all_eq_true, IsKeyName]
  simp only [decide_eq_true_eq]
  exact ⟨fun ⟨⟨hn, hs⟩, hle⟩ => ⟨⟨hle, hn⟩, hs⟩, fun ⟨⟨hle, hn⟩, hs⟩ => ⟨⟨hn, hs⟩, hle⟩⟩

theorem keyName_ticked_append {n : List Char} (h : IsKeyName n) (r : List Char) :
    keyName (ticked n ++ r) = some (n, r) :=
  keyName_eq_some_iff.2 ⟨h, rfl⟩

theorem stops_toList_append {p : Char → Bool} {w : String} {c : Char}
    (hw : w.toList.head? = some c) (hc : p c = false) (r : List Char) :
    Stops p (w.toList ++ r) := by
  obtain ⟨tl, htl⟩ := List.head?_eq_some_iff.1 hw
  rw [htl]
  exact stops_cons hc (tl ++ r)

theorem skipBlanks_append_word {b : List Char} (hb : onlyBlanks b = true) {w : String} {c : Char}
    (hw : w.toList.head? = some c) (hc : isBlank c = false) (r : List Char) :
    skipBlanks (b ++ (w.toList ++ r)) = w.toList ++ r :=
  skipBlanks_append_of_stops hb (stops_toList_append hw hc r)

theorem after_eq_some_iff {word : String} {s r : List Char} :
    after word s = some r ↔ s = word.toList ++ r :=
  List.isPrefixOf?_eq_some_iff_append_eq.trans eq_comm

theorem after_append (w : String) (r : List Char) : after w (w.toList ++ r) = some r :=
  after_eq_some_iff.2 rfl

theorem after_append_eq_none {w v : String} (hw : ¬ w.toList <+: v.toList)
    (hv : ¬ v.toList <+: w.toList) (r : List Char) : after w (v.toList ++ r) = none := by
  rw [Option.eq_none_iff_forall_not_mem]
  intro s hs
  have hprefix : w.toList <+: v.toList ++ r := ⟨s, (after_eq_some_iff.1 hs).symm⟩
  rcases List.prefix_or_prefix_of_prefix hprefix (List.prefix_append v.toList r) with h | h
  · exact hw h
  · exact hv h

theorem after_eq_none_of_stops {w : String} {s : List Char} (c : Char)
    (hw : w.toList.head? = some c) (hs : Stops (· == c) s) : after w s = none := by
  rw [Option.eq_none_iff_forall_not_mem]
  intro r hr
  have happ := after_eq_some_iff.1 hr
  obtain ⟨tl, htl⟩ := List.head?_eq_some_iff.1 hw
  rw [htl] at happ
  have hc := hs c (by rw [happ]; rfl)
  simp at hc

theorem after_eq_none_of_ne {w : String} {c d : Char} (hw : w.toList.head? = some c)
    (h : d ≠ c) (s : List Char) : after w (d :: s) = none :=
  after_eq_none_of_stops c hw (stops_cons (by simp [h]) s)

end SchemaDiagram.Ddl

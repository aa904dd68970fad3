import SchemaDiagram.Text.Blank

namespace SchemaDiagram.Ddl

open Text

def isNameChar (c : Char) : Bool := c.isAlphanum || c == '_' || c == '-'

def tick : Char := '\x60'

def after (word : String) (s : List Char) : Option (List Char) := word.toList.isPrefixOf? s

def afterOptional (word : String) (s : List Char) : Bool × List Char :=
  match after word s with
  | some r => (true, r)
  | none => (false, s)

def quotedName : List Char → Option (List Char × List Char)
  | [] => none
  | c :: r =>
      if c = tick then
        match r.dropWhile isNameChar with
        | [] => none
        | d :: rest => if d = tick then some (r.takeWhile isNameChar, rest) else none
      else none

def declaredName (s : List Char) : Option (List Char × List Char) :=
  (quotedName s).filter fun p => p.1 ≠ []

def keyNameLimit : Nat := 64

def keyName (s : List Char) : Option (List Char × List Char) :=
  (quotedName s).filter fun p => p.1.length ≤ keyNameLimit

theorem isNameChar_tick : isNameChar tick = false := by decide

theorem quotedName_eq_some_iff {s n r : List Char} :
    quotedName s = some (n, r) ↔ n.all isNameChar = true ∧ s = tick :: n ++ tick :: r := by
  constructor
  · intro h
    cases s with
    | nil => simp [quotedName] at h
    | cons c s =>
        simp only [quotedName] at h
        split at h
        · rename_i hc
          split at h
          · simp at h
          · rename_i d rest hd
            split at h
            · rename_i hdt
              simp only [Option.some.injEq, Prod.mk.injEq] at h
              obtain ⟨rfl, rfl⟩ := h
              refine ⟨List.all_takeWhile, ?_⟩
              rw [hc, List.cons_append, ← hdt, ← hd, List.takeWhile_append_dropWhile]
            · simp at h
        · simp at h
  · rintro ⟨hn, rfl⟩
    have hp : ∀ c ∈ n, isNameChar c = true := by simpa using hn
    simp [quotedName, List.dropWhile_append_of_pos hp, List.takeWhile_append_of_pos hp,
      isNameChar_tick]

theorem quotedName_length {s n r : List Char} (h : quotedName s = some (n, r)) :
    n.length + r.length + 2 = s.length := by
  rw [(quotedName_eq_some_iff.1 h).2]
  simp only [List.length_append, List.length_cons]
  omega

end SchemaDiagram.Ddl

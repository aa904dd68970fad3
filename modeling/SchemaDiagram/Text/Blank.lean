namespace SchemaDiagram.Text

def isBlank (c : Char) : Bool :=
  let n := c.toNat
  (9 ≤ n && n ≤ 13) || n == 0x20 || n == 0x85 || n == 0xA0 || n == 0x1680
    || (0x2000 ≤ n && n ≤ 0x200A) || n == 0x2028 || n == 0x2029 || n == 0x202F
    || n == 0x205F || n == 0x3000

def skipBlanks (s : List Char) : List Char := s.dropWhile isBlank

def dropBlanksRight (s : List Char) : List Char := (skipBlanks s.reverse).reverse

def trim (s : List Char) : List Char := dropBlanksRight (skipBlanks s)

def onlyBlanks (s : List Char) : Bool := s.all isBlank

theorem skipBlanks_append_of_onlyBlanks {b : List Char} (s : List Char)
    (h : onlyBlanks b = true) : skipBlanks (b ++ s) = skipBlanks s := by
  induction b with
  | nil => rfl
  | cons c r ih =>
      simp only [onlyBlanks, List.all_cons, Bool.and_eq_true] at h
      simp only [skipBlanks, List.cons_append, List.dropWhile_cons, h.1, if_true]
      exact ih h.2

end SchemaDiagram.Text

import Mathlib.Data.List.Basic

namespace SchemaDiagram.Text

theorem data_toUTF8 (s : String) :
    s.toUTF8.data.toList = s.toList.flatMap String.utf8EncodeChar := by
  conv_lhs => rw [← String.ofList_toList (s := s)]
  rw [String.toUTF8_eq_toByteArray, String.toByteArray_ofList, List.utf8Encode]
  simp

theorem toNat_val_lt (c : Char) : c.val.toNat < 1114112 := by
  rcases c.valid with h | ⟨_, h⟩
  · omega
  · exact h

theorem ofNat_cons_lt_iff {m n : Nat} (hm : m < 256) (hn : n < 256) {bs bs' : List UInt8} :
    UInt8.ofNat m :: bs < UInt8.ofNat n :: bs' ↔ m < n ∨ m = n ∧ bs < bs' := by
  rw [List.cons_lt_cons_iff, UInt8.lt_iff_toNat_lt, ← UInt8.toNat_inj,
    UInt8.toNat_ofNat_of_lt' hm, UInt8.toNat_ofNat_of_lt' hn]

theorem digits_lt {n n' : Nat} (h : n < n') (base : Nat) :
    n / base < n' / base ∨ n / base = n' / base ∧ n % base < n' % base := by
  rcases Nat.lt_or_eq_of_le (Nat.div_le_div_right (c := base) (Nat.le_of_lt h)) with hlt | heq
  · exact .inl hlt
  · have hn := Nat.div_add_mod n base
    have hn' := Nat.div_add_mod n' base
    rw [heq] at hn
    exact .inr ⟨heq, by omega⟩

theorem utf8EncodeChar_append_lt {c c' : Char} (h : c < c') (bs bs' : List UInt8) :
    String.utf8EncodeChar c ++ bs < String.utf8EncodeChar c' ++ bs' := by
  have hval : c.val.toNat < c'.val.toNat := UInt32.lt_iff_toNat_lt.1 h
  have hlast : c'.val.toNat < 1114112 := toNat_val_lt c'
  simp only [String.utf8EncodeChar]
  generalize c.val.toNat = n at *
  generalize c'.val.toNat = n' at *
  have hone := digits_lt hval 64
  have htwo : n / 64 < n' / 64 →
      n / 4096 < n' / 4096 ∨ n / 4096 = n' / 4096 ∧ n / 64 % 64 < n' / 64 % 64 := by
    intro h
    simpa only [Nat.div_div_eq_div_mul] using digits_lt h 64
  have hthree : n / 4096 < n' / 4096 →
      n / 262144 < n' / 262144 ∨ n / 262144 = n' / 262144 ∧ n / 4096 % 64 < n' / 4096 % 64 := by
    intro h
    simpa only [Nat.div_div_eq_div_mul] using digits_lt h 64
  have hlead : n / 262144 % 8 = n / 262144 := by omega
  have hlead' : n' / 262144 % 8 = n' / 262144 := by omega
  -- Characters of unlike length differ in the first byte, those of one length in a digit.
  repeat' split
  all_goals
    simp (disch := omega) only [List.cons_append, List.nil_append, ofNat_cons_lt_iff]
    omega

theorem flatMap_utf8EncodeChar_lt {s t : List Char} (h : s < t) :
    s.flatMap String.utf8EncodeChar < t.flatMap String.utf8EncodeChar := by
  induction h with
  | @nil c t =>
      rw [List.flatMap_nil, List.flatMap_cons]
      obtain ⟨b, bs, hc⟩ := List.exists_cons_of_ne_nil (String.utf8EncodeChar_ne_nil (c := c))
      rw [hc]
      exact List.nil_lt_cons b _
  | @rel c s c' t hc =>
      rw [List.flatMap_cons, List.flatMap_cons]
      exact utf8EncodeChar_append_lt hc _ _
  | @cons c s t _ ih =>
      rw [List.flatMap_cons, List.flatMap_cons]
      exact List.append_left_lt ih

theorem data_toUTF8_lt {s t : String} (h : s < t) :
    s.toUTF8.data.toList < t.toUTF8.data.toList := by
  rw [data_toUTF8, data_toUTF8]
  exact flatMap_utf8EncodeChar_lt (String.lt_iff.1 h)

end SchemaDiagram.Text

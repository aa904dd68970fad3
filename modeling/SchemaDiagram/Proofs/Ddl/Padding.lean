import SchemaDiagram.Proofs.Ddl.Form.Header
import SchemaDiagram.Proofs.Ddl.KeyLine
import SchemaDiagram.Proofs.Ddl.LineEnd
import SchemaDiagram.Proofs.Ddl.StatementLine

namespace SchemaDiagram

namespace Text

def EndsVisibly (s : List Char) : Prop := ∀ c ∈ s.getLast?, isBlank c = false

instance : DecidablePred EndsVisibly := fun s =>
  decidable_of_iff (s.getLast?.any isBlank = false) (by
    unfold EndsVisibly
    cases s.getLast? <;> simp)

theorem endsVisibly_append_of_ne_nil (s : List Char) {t : List Char} (ht : EndsVisibly t)
    (hne : t ≠ []) : EndsVisibly (s ++ t) :=
  endsOutside_append_of_ne_nil s ht hne

theorem exists_append_of_append_eq {x r s e : List Char} (hx : EndsVisibly x)
    (he : onlyBlanks e = true) (h : s ++ e = x ++ r) : ∃ t, s = x ++ t ∧ r = t ++ e := by
  rcases List.append_eq_append_iff.1 h with ⟨t, rfl, rfl⟩ | ⟨t, hs, hr⟩
  · cases hlast : t.getLast? with
    | none =>
        obtain rfl := List.getLast?_eq_none_iff.1 hlast
        exact ⟨[], by simp, by simp⟩
    | some c =>
        -- The visible end of `x` would be one of the blanks.
        have hmem : c ∈ t ++ r := List.mem_append_left r (List.mem_of_getLast? hlast)
        have hblank := forall_of_onlyBlanks he c hmem
        have hvisible := hx c (by rw [List.getLast?_append, hlast]; rfl)
        rw [hblank] at hvisible
        cases hvisible
  · exact ⟨t, hs, hr⟩

/-- White space at the end makes no difference to a property of texts if each text that has it is a
part with a visible end and a rest, and the property only asks something of that rest to which such
white space makes no difference. -/
theorem append_blanks_iff {P q : List Char → Prop} {e : List Char}
    (he : onlyBlanks e = true) (hrest : ∀ r, q (r ++ e) ↔ q r)
    (hsplit : ∀ {s}, P s → ∃ b r, EndsVisibly b ∧ q r ∧ s = b ++ r ∧
      ∀ {t}, q t → P (b ++ t)) (s : List Char) : P (s ++ e) ↔ P s := by
  constructor
  · intro h
    obtain ⟨b, r, hb, hr, hs, hP⟩ := hsplit h
    obtain ⟨t, rfl, rfl⟩ := exists_append_of_append_eq hb he hs
    exact hP ((hrest t).1 hr)
  · intro h
    obtain ⟨b, r, _, hr, rfl, hP⟩ := hsplit h
    rw [List.append_assoc]
    exact hP ((hrest r).2 hr)

def blankCodes : List Nat :=
  List.range' 9 5 ++ [0x20, 0x85, 0xA0, 0x1680] ++ List.range' 0x2000 11 ++
    [0x2028, 0x2029, 0x202F, 0x205F, 0x3000]

theorem mem_blankCodes_of_isBlank {c : Char} (h : isBlank c = true) : c.toNat ∈ blankCodes := by
  simp only [isBlank, Bool.or_eq_true, Bool.and_eq_true, decide_eq_true_eq, beq_iff_eq] at h
  simp only [blankCodes, List.mem_append, List.mem_range'_1, List.mem_cons, List.not_mem_nil]
  omega

theorem isWordChar_of_isBlank {c : Char} (h : isBlank c = true) : isWordChar c = false := by
  have hcodes : ∀ n ∈ blankCodes, isWordChar (Char.ofNat n) = false := by decide +kernel
  rw [← Char.ofNat_toNat c]
  exact hcodes c.toNat (mem_blankCodes_of_isBlank h)

theorem atWordEnd_append {e : List Char} (he : onlyBlanks e = true) (r : List Char) :
    atWordEnd (r ++ e) = atWordEnd r := by
  cases r with
  | nil =>
      cases e with
      | nil => rfl
      | cons c e =>
          have hc := isWordChar_of_isBlank (forall_of_onlyBlanks he c List.mem_cons_self)
          rw [List.nil_append, atWordEnd, atWordEnd, hc, Bool.not_false]
  | cons c r => rfl

end Text

open Text

namespace Ddl

theorem endsDefinition_append {e : List Char} (he : onlyBlanks e = true) (r : List Char) :
    endsDefinition (r ++ e) = endsDefinition r := by
  have hblanks (s : List Char) : onlyBlanks (s ++ e) = onlyBlanks s := by
    rw [onlyBlanks, List.all_append, ← onlyBlanks, ← onlyBlanks, he, Bool.and_true]
  cases r with
  | nil => exact (Ending.mk false ⟨e, he⟩).endsDefinition_text
  | cons c r =>
      by_cases hc : c = ','
      · have hsome (s : List Char) : after "," (',' :: s) = some s := after_append "," s
        rw [hc, endsDefinition, endsDefinition, List.cons_append, hsome, hsome]
        exact hblanks r
      · have hnone (s : List Char) : after "," (c :: s) = none :=
          after_eq_none_of_ne (c := ',') (by decide) hc s
        rw [endsDefinition, endsDefinition, List.cons_append, hnone, hnone]
        exact hblanks (c :: r)

theorem endsVisibly_append_close (s : List Char) : EndsVisibly (s ++ ")".toList) :=
  endsVisibly_append_of_ne_nil s (t := [')']) (by decide) (by decide)

theorem endsVisibly_append_declaration {c : Column} (hc : c.WellFormed) (b : List Char) :
    EndsVisibly (b ++ c.declaration) :=
  endsOutside_append_declaration (p := isBlank) (by decide) hc b

def IsPadding (s : String) : Prop := onlyBlanks s.toList = true ∧ '\n' ∉ s.toList

structure IgnoresPadding {α : Type} (read : String → α) : Prop where
  prepend : ∀ {b}, IsPadding b → ∀ s, read (b ++ s) = read s
  append : ∀ {e}, IsPadding e → ∀ s, read (s ++ e) = read s

theorem ignoresPadding_of_splits {α : Type} {f : List Char → Option α} {q : List Char → Prop}
    (hprepend : ∀ {b}, onlyBlanks b = true → '\n' ∉ b → ∀ s, f (b ++ s) = f s)
    (hrest : ∀ {e}, onlyBlanks e = true → '\n' ∉ e → ∀ r, q (r ++ e) ↔ q r)
    (hsplit : ∀ {s x}, f s = some x → ∃ b r, EndsVisibly b ∧ q r ∧ s = b ++ r ∧
      ∀ {t}, q t → f (b ++ t) = some x) :
    IgnoresPadding fun line => f line.toList where
  prepend hb s := by
    rw [String.toList_append]
    exact hprepend hb.1 hb.2 s.toList
  append he s := by
    apply Option.ext
    intro x
    rw [String.toList_append]
    exact append_blanks_iff he.1 (hrest he.1 he.2) hsplit s.toList

theorem ignoresPadding_column? : IgnoresPadding mysql.column? := by
  refine ignoresPadding_of_splits (f := Ddl.column?)
    (q := fun r => endsDefinition r = true) ?_ ?_ ?_
  · intro b hb _ s
    simp only [column?, skipBlanks_append_of_onlyBlanks s hb]
  · intro e he _ r
    rw [endsDefinition_append he]
  · intro s c h
    obtain ⟨hc, hprimary, hforeign, b, r, hb, hr, rfl⟩ := column?_eq_some_iff.1 h
    refine ⟨b ++ c.declaration, r, endsVisibly_append_declaration hc b, hr,
      (List.append_assoc _ _ _).symm, ?_⟩
    intro t ht
    exact column?_eq_some_iff.2 ⟨hc, hprimary, hforeign, b, t, hb, ht, List.append_assoc _ _ _⟩

theorem ignoresPadding_primaryKey? : IgnoresPadding mysql.primaryKey? := by
  refine ignoresPadding_of_splits (f := Ddl.primaryKey?)
    (q := fun r => endsDefinition r = true) ?_ ?_ ?_
  · intro b hb _ s
    simp only [primaryKey?, skipBlanks_append_of_onlyBlanks s hb]
  · intro e he _ r
    rw [endsDefinition_append he]
  · intro s k h
    obtain ⟨b, text, names, r, hb, hlist, hr, hne, rfl, rfl⟩ := primaryKey?_eq_some_iff.1 h
    refine ⟨b ++ ("PRIMARY KEY (".toList ++ text) ++ ")".toList, r, endsVisibly_append_close _,
      hr, by simp only [List.append_assoc], ?_⟩
    intro t ht
    exact primaryKey?_eq_some_iff.2
      ⟨b, text, names, t, hb, hlist, ht, hne, by simp only [List.append_assoc], rfl⟩

theorem lineFeed_not_mem_append_iff {e : List Char} (he : '\n' ∉ e) (r : List Char) :
    '\n' ∉ r ++ e ↔ '\n' ∉ r := by
  rw [List.mem_append, or_iff_left he]

theorem ignoresPadding_uniqueKey? : IgnoresPadding mysql.uniqueKey? := by
  refine ignoresPadding_of_splits (f := Ddl.uniqueKey?)
    (q := fun r => '\n' ∉ r) ?_ ?_ ?_
  · intro b hb _ s
    simp only [uniqueKey?, skipBlanks_append_of_onlyBlanks s hb]
  · intro e _ he r
    exact lineFeed_not_mem_append_iff he r
  · intro s k h
    obtain ⟨b, n, text, names, r, hb, hn, hlist, hr, rfl, rfl⟩ := uniqueKey?_eq_some_iff.1 h
    refine ⟨b ++ ("UNIQUE KEY ".toList ++ (ticked n ++ (" (".toList ++ text))) ++ ")".toList, r,
      endsVisibly_append_close _, hr, by simp only [List.append_assoc], ?_⟩
    intro t ht
    exact uniqueKey?_eq_some_iff.2
      ⟨b, n, text, names, t, hb, hn, hlist, ht, by simp only [List.append_assoc], rfl⟩

theorem ignoresPadding_foreignKey? : IgnoresPadding mysql.foreignKey? := by
  refine ignoresPadding_of_splits (f := Ddl.foreignKey?)
    (q := fun r => '\n' ∉ r) ?_ ?_ ?_
  · intro b hb _ s
    simp only [foreignKey?, skipBlanks_append_of_onlyBlanks s hb]
  · intro e _ he r
    exact lineFeed_not_mem_append_iff he r
  · intro s k h
    obtain ⟨b, m, c, t, u, r, hb, hm, hc, ht, hu, hr, rfl, rfl⟩ := foreignKey?_eq_some_iff.1 h
    refine ⟨b ++ ("CONSTRAINT ".toList ++ (ticked m ++ (" FOREIGN KEY (".toList ++ (ticked c
      ++ (") REFERENCES ".toList ++ (ticked t ++ (" (".toList ++ ticked u))))))) ++ ")".toList, r,
      endsVisibly_append_close _, hr, by simp only [List.append_assoc], ?_⟩
    intro r' hr'
    exact foreignKey?_eq_some_iff.2
      ⟨b, m, c, t, u, r', hb, hm, hc, ht, hu, hr', by simp only [List.append_assoc], rfl⟩

theorem headerName_blanks_append {b : List Char} (hb : onlyBlanks b = true) (hfeed : '\n' ∉ b)
    (s : List Char) : headerName (b ++ s) = headerName s := by
  induction b with
  | nil => rfl
  | cons c b ih =>
      obtain ⟨hc, hfeed⟩ := not_or.1 (mt List.mem_cons.2 hfeed)
      rw [onlyBlanks, List.all_cons, Bool.and_eq_true] at hb
      have hletter : c ≠ 'C' := by
        rintro rfl
        exact absurd hb.1 (by decide)
      have hafter : after "CREATE TABLE " (c :: (b ++ s)) = none :=
        after_eq_none_of_ne (c := 'C') (by decide) hletter (b ++ s)
      have hnone : headerHere (c :: (b ++ s)) = none := by
        rw [headerHere, hafter]
        rfl
      rw [List.cons_append, headerName, hnone]
      simp only [if_neg (Ne.symm hc), ih hb.2 hfeed]

theorem ignoresPadding_headerName : IgnoresPadding fun line => headerName line.toList := by
  refine ignoresPadding_of_splits (f := headerName) (q := fun r => onlyBlanks r = true)
    headerName_blanks_append ?_ ?_
  · intro e he _ r
    rw [onlyBlanks, List.all_append, ← onlyBlanks, ← onlyBlanks, he, Bool.and_true]
  · intro s n h
    obtain ⟨f, rfl, rfl⟩ := HeaderForm.headerName_eq_some_iff.1 h
    have hvisible : EndsVisibly " (".toList := by decide
    refine ⟨f.before ++ (f.opening ++ ticked f.name) ++ " (".toList, f.margin,
      endsVisibly_append_of_ne_nil _ hvisible (by decide), f.margin.property, ?_, ?_⟩
    · simp only [HeaderForm.header, List.append_assoc]
    · intro t ht
      refine HeaderForm.headerName_eq_some_iff.2 ⟨{ f with margin := ⟨t, ht⟩ }, ?_, rfl⟩
      unfold HeaderForm.header HeaderForm.opening
      simp only [List.append_assoc]

theorem IgnoresPadding.comp {α β : Type} {read : String → α} (h : IgnoresPadding read)
    (g : α → β) : IgnoresPadding fun line => g (read line) where
  prepend hb s := congrArg g (h.prepend hb s)
  append he s := congrArg g (h.append he s)

theorem ignoresPadding_table? : IgnoresPadding mysql.table? :=
  ignoresPadding_headerName.comp fun name =>
    (name.map String.ofList).map fun n => ({ name := n } : Table)

theorem endsVisibly_append_of_inAnyCase {w : String} {o : List Char} (h : InAnyCase w o)
    (hw : w.toList.any isBlank = false) (hne : w.toList ≠ []) (s : List Char) :
    EndsVisibly (s ++ o) := by
  refine endsVisibly_append_of_ne_nil s ?_ (fun ho => hne (by rw [← h, ho, List.map_nil]))
  intro c hc
  rw [Bool.eq_false_iff]
  intro hblank
  have hmem : c.toUpper ∈ w.toList := by
    rw [← h]
    exact List.mem_map_of_mem (List.mem_of_getLast? hc)
  rw [toUpper_of_isBlank hblank] at hmem
  exact List.any_eq_false.1 hw c hmem hblank

theorem ignoresPadding_of_iff {test : String → Bool} {P : String → Prop} {q : List Char → Prop}
    (hiff : ∀ {s}, test s = true ↔ P s)
    (hprepend : ∀ {b : String}, onlyBlanks b.toList = true → ∀ s, test (b ++ s) = test s)
    (hrest : ∀ {e}, onlyBlanks e = true → ∀ r, q (r ++ e) ↔ q r)
    (hsplit : ∀ {s}, P s → ∃ b r, EndsVisibly b ∧ q r ∧ s.toList = b ++ r ∧
      ∀ {t}, q t → P (String.ofList (b ++ t))) :
    IgnoresPadding test where
  prepend hb s := hprepend hb.1 s
  append he s := by
    rw [Bool.eq_iff_iff, hiff, hiff]
    have happend := append_blanks_iff (P := fun s => P (String.ofList s)) he.1 (hrest he.1) ?_
      s.toList
    · rwa [String.ofList_append, String.ofList_toList, String.ofList_toList] at happend
    · intro s h
      obtain ⟨b, r, hb, hr, hs, hP⟩ := hsplit h
      exact ⟨b, r, hb, hr, by rwa [String.toList_ofList] at hs, hP⟩

theorem ignoresPadding_startsStatement : IgnoresPadding startsStatement := by
  refine ignoresPadding_of_iff (q := fun r => atWordEnd r = true) startsStatement_iff ?_ ?_ ?_
  · intro b hb s
    rw [startsStatement, startsStatement, String.toList_append,
      skipBlanks_append_of_onlyBlanks s.toList hb]
  · intro e he r
    rw [atWordEnd_append he]
  · intro s h
    obtain ⟨b, create, gap, table, r, hb, hcreate, hne, hgap, htable, hr, hs⟩ := h
    refine ⟨b ++ (create ++ gap) ++ table, r,
      endsVisibly_append_of_inAnyCase htable (by decide) (by decide) _, hr, ?_, ?_⟩
    · simp only [hs, List.append_assoc]
    · intro t ht
      exact ⟨b, create, gap, table, t, hb, hcreate, hne, hgap, htable, ht,
        by simp only [String.toList_ofList, List.append_assoc]⟩

theorem ignoresPadding_closesStatement : IgnoresPadding closesStatement := by
  refine ignoresPadding_of_iff (q := fun _ => True) closesStatement_iff ?_ ?_ ?_
  · intro b hb s
    rw [closesStatement, closesStatement, String.toList_append,
      skipBlanks_append_of_onlyBlanks s.toList hb]
  · exact fun _ _ => Iff.rfl
  · intro s h
    obtain ⟨b, r, hb, hs⟩ := h
    refine ⟨b ++ ")".toList, r, endsVisibly_append_close b, trivial, ?_, ?_⟩
    · rw [hs, List.append_assoc]
      rfl
    · intro t _
      exact ⟨b, t, hb, by rw [String.toList_ofList, List.append_assoc]; rfl⟩

end Ddl

end SchemaDiagram

import SchemaDiagram.Proofs.Ddl.ColumnList
import SchemaDiagram.Proofs.Ddl.Part

namespace SchemaDiagram.Ddl

open Text

theorem endsAnyhow_iff {e : List Char} : endsAnyhow e = true ↔ '\n' ∉ e := by
  rw [endsAnyhow, List.all_eq_true]
  simp only [ne_eq, decide_eq_true_eq]
  exact ⟨fun h hmem => h '\n' hmem rfl, fun h c hc heq => h (heq ▸ hc)⟩

theorem primaryKey?_eq_some_iff {line : List Char} {k : PrimaryKey} :
    primaryKey? line = some k ↔ ∃ b text names e, onlyBlanks b = true ∧ QuotedList text names ∧
      endsDefinition e = true ∧ names.filter (· ≠ []) ≠ [] ∧
      line = b ++ ("PRIMARY KEY (".toList ++ (text ++ (")".toList ++ e))) ∧
      k = { columns := (names.filter (· ≠ [])).map String.ofList } := by
  constructor
  · intro h
    simp only [primaryKey?, Option.bind_eq_bind, Option.bind_eq_some_iff, after_eq_some_iff] at h
    obtain ⟨r, hr, ⟨text, r₁⟩, hlist, e, he, _, hguard, heq⟩ := h
    obtain ⟨names, hnames, hr₁⟩ := quotedList_sound hlist
    rw [Option.guard_eq_some', Bool.and_eq_true, decide_eq_true_eq,
      columnNames_of_quotedList hnames] at hguard
    rw [columnNames_of_quotedList hnames] at heq
    refine ⟨line.takeWhile isBlank, text, names, e, onlyBlanks_takeWhile line, hnames, hguard.1,
      hguard.2, ?_, (Option.some.inj heq).symm⟩
    have he : r₁ = ")".toList ++ e := he
    rw [← he, ← hr₁, ← hr, takeWhile_append_skipBlanks]
  · rintro ⟨b, text, names, e, hb, hnames, he, hne, rfl, rfl⟩
    have hlist := quotedList_complete hnames (r := ")".toList ++ e) (stops_cons (by decide) _)
    rw [primaryKey?, skipBlanks_append_word hb (c := 'P') (by decide) (by decide)]
    simp only [after_append, hlist, columnNames_of_quotedList hnames,
      Option.bind_eq_bind, Option.bind_some]
    have hguard : (endsDefinition e && decide (names.filter (· ≠ []) ≠ [])) = true := by
      rw [he, Bool.true_and, decide_eq_true_eq]
      exact hne
    exact Option.bind_eq_some_iff.2 ⟨(), (Option.guard_eq_some' ()).2 hguard, rfl⟩

theorem uniqueKey?_eq_some_iff {line : List Char} {k : UniqueKey} :
    uniqueKey? line = some k ↔ ∃ b n text names e, onlyBlanks b = true ∧ IsKeyName n ∧
      QuotedList text names ∧ '\n' ∉ e ∧
      line = b ++ ("UNIQUE KEY ".toList ++ (ticked n ++ (" (".toList
        ++ (text ++ (")".toList ++ e))))) ∧
      k = { name := String.ofList n
            columns := (names.filter (· ≠ [])).map String.ofList } := by
  constructor
  · intro h
    simp only [uniqueKey?, Option.bind_eq_bind, Option.bind_eq_some_iff, after_eq_some_iff] at h
    obtain ⟨r, hr, ⟨n, r₁⟩, hname, r₂, h₂, ⟨text, r₃⟩, hlist, e, h₄, _, hguard, heq⟩ := h
    obtain ⟨hkey, hr₁⟩ := keyName_eq_some_iff.1 hname
    obtain ⟨names, hnames, hr₂⟩ := quotedList_sound hlist
    rw [columnNames_of_quotedList hnames] at heq
    refine ⟨line.takeWhile isBlank, n, text, names, e, onlyBlanks_takeWhile line, hkey, hnames,
      endsAnyhow_iff.1 ((Option.guard_eq_some' ()).1 hguard), ?_, (Option.some.inj heq).symm⟩
    have h₂ : r₁ = " (".toList ++ r₂ := h₂
    have h₄ : r₃ = ")".toList ++ e := h₄
    rw [← h₄, ← hr₂, ← h₂, ← hr₁, ← hr, takeWhile_append_skipBlanks]
  · rintro ⟨b, n, text, names, e, hb, hkey, hnames, he, rfl, rfl⟩
    have hlist := quotedList_complete hnames (r := ")".toList ++ e) (stops_cons (by decide) _)
    rw [uniqueKey?, skipBlanks_append_word hb (c := 'U') (by decide) (by decide)]
    simp only [after_append, keyName_ticked_append hkey, hlist,
      columnNames_of_quotedList hnames, Option.bind_eq_bind, Option.bind_some]
    exact Option.bind_eq_some_iff.2 ⟨(), (Option.guard_eq_some' ()).2 (endsAnyhow_iff.2 he), rfl⟩

theorem foreignKey?_eq_some_iff {line : List Char} {k : ForeignKey} :
    foreignKey? line = some k ↔ ∃ b m c t s e, onlyBlanks b = true ∧ IsKeyName m ∧ IsKeyName c ∧
      IsKeyName t ∧ IsKeyName s ∧ '\n' ∉ e ∧
      line = b ++ ("CONSTRAINT ".toList ++ (ticked m ++ (" FOREIGN KEY (".toList ++ (ticked c
        ++ (") REFERENCES ".toList ++ (ticked t ++ (" (".toList
          ++ (ticked s ++ (")".toList ++ e))))))))) ∧
      k = { column := some (String.ofList c)
            referencedTable := some (String.ofList t)
            referencedColumn := some (String.ofList s) } := by
  constructor
  · intro h
    simp only [foreignKey?, Option.bind_eq_bind, Option.bind_eq_some_iff, after_eq_some_iff] at h
    obtain ⟨r, hr, ⟨m, r₁⟩, hm, r₂, h₂, ⟨c, r₃⟩, hc, r₄, h₄, ⟨t, r₅⟩, ht, r₆, h₆, ⟨s, r₇⟩, hs, e,
      h₈, _, hguard, heq⟩ := h
    obtain ⟨hm, hr₁⟩ := keyName_eq_some_iff.1 hm
    obtain ⟨hc, hr₃⟩ := keyName_eq_some_iff.1 hc
    obtain ⟨ht, hr₅⟩ := keyName_eq_some_iff.1 ht
    obtain ⟨hs, hr₇⟩ := keyName_eq_some_iff.1 hs
    refine ⟨line.takeWhile isBlank, m, c, t, s, e, onlyBlanks_takeWhile line, hm, hc, ht, hs,
      endsAnyhow_iff.1 ((Option.guard_eq_some' ()).1 hguard), ?_, (Option.some.inj heq).symm⟩
    have h₂ : r₁ = " FOREIGN KEY (".toList ++ r₂ := h₂
    have h₄ : r₃ = ") REFERENCES ".toList ++ r₄ := h₄
    have h₆ : r₅ = " (".toList ++ r₆ := h₆
    have h₈ : r₇ = ")".toList ++ e := h₈
    rw [← h₈, ← hr₇, ← h₆, ← hr₅, ← h₄, ← hr₃, ← h₂, ← hr₁, ← hr, takeWhile_append_skipBlanks]
  · rintro ⟨b, m, c, t, s, e, hb, hm, hc, ht, hs, he, rfl, rfl⟩
    rw [foreignKey?, skipBlanks_append_word hb (c := 'C') (by decide) (by decide)]
    simp only [after_append, keyName_ticked_append hm, keyName_ticked_append hc,
      keyName_ticked_append ht, keyName_ticked_append hs, Option.bind_eq_bind, Option.bind_some]
    exact Option.bind_eq_some_iff.2 ⟨(), (Option.guard_eq_some' ()).2 (endsAnyhow_iff.2 he), rfl⟩

end SchemaDiagram.Ddl

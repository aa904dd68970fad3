import SchemaDiagram.Proofs.Ddl.Form
import SchemaDiagram.Proofs.Ddl.KeyLine

namespace SchemaDiagram.Ddl

open Text

abbrev NameRun := { n : List Char // ∀ c ∈ n, isNameChar c = true }

structure ConstraintForm where
  indent : Blanks
  constraint : NameRun
  column : NameRun
  table : NameRun
  referenced : NameRun
  tail : List Char

namespace ConstraintForm

def key (f : ConstraintForm) : ForeignKey where
  column := some (String.ofList f.column)
  referencedTable := some (String.ofList f.table)
  referencedColumn := some (String.ofList f.referenced)

def line (f : ConstraintForm) : String :=
  String.ofList (f.indent ++ ("CONSTRAINT ".toList ++ (ticked f.constraint
    ++ (" FOREIGN KEY (".toList ++ (ticked f.column ++ (") REFERENCES ".toList
      ++ (ticked f.table ++ (" (".toList ++ (ticked f.referenced ++ (")".toList ++ f.tail))))))))))

structure Fits (f : ConstraintForm) : Prop where
  constraint : f.constraint.val.length ≤ keyNameLimit
  column : f.column.val.length ≤ keyNameLimit
  table : f.table.val.length ≤ keyNameLimit
  referenced : f.referenced.val.length ≤ keyNameLimit
  tail : '\n' ∉ f.tail

theorem toList_line (f : ConstraintForm) :
    f.line.toList = f.indent ++ ("CONSTRAINT ".toList ++ (ticked f.constraint
      ++ (" FOREIGN KEY (".toList ++ (ticked f.column ++ (") REFERENCES ".toList ++ (ticked f.table
        ++ (" (".toList ++ (ticked f.referenced ++ (")".toList ++ f.tail))))))))) :=
  String.toList_ofList

theorem line_injective : Function.Injective line := by
  rintro ⟨b, m, c, t, s, e⟩ ⟨b', m', c', t', s', e'⟩ h
  have hword (r : List Char) : Stops isBlank ("CONSTRAINT ".toList ++ r) :=
    stops_toList_append (c := 'C') (by decide) (by decide) r
  have hname {n n' : NameRun} {w : String} {r r' : List Char}
      (h : w.toList ++ (ticked n ++ r) = w.toList ++ (ticked n' ++ r')) : n = n' ∧ r = r' := by
    obtain ⟨hn, hr⟩ := ticked_append_inj n.property n'.property (List.append_cancel_left h)
    exact ⟨Subtype.ext hn, hr⟩
  have htext := congrArg String.toList h
  rw [toList_line, toList_line] at htext
  obtain ⟨hindent, htext⟩ := blanks_append_inj (hword _) (hword _) htext
  obtain ⟨hconstraint, htext⟩ := hname htext
  obtain ⟨hcolumn, htext⟩ := hname htext
  obtain ⟨htable, htext⟩ := hname htext
  obtain ⟨hreferenced, htext⟩ := hname htext
  have htail := List.append_cancel_left htext
  obtain rfl : b = b' := hindent
  obtain rfl : m = m' := hconstraint
  obtain rfl : c = c' := hcolumn
  obtain rfl : t = t' := htable
  obtain rfl : s = s' := hreferenced
  obtain rfl : e = e' := htail
  rfl

theorem foreignKey?_eq_some_iff_exists_form {line : String} {k : ForeignKey} :
    mysql.foreignKey? line = some k ↔ ∃ f : ConstraintForm, f.Fits ∧ f.line = line ∧ f.key = k := by
  constructor
  · intro h
    obtain ⟨b, m, c, t, s, e, hb, hm, hc, ht, hs, he, hline, rfl⟩ := foreignKey?_eq_some_iff.1 h
    refine ⟨⟨⟨b, hb⟩, ⟨m, hm.2⟩, ⟨c, hc.2⟩, ⟨t, ht.2⟩, ⟨s, hs.2⟩, e⟩, ?_, ?_, rfl⟩
    · exact ⟨hm.1, hc.1, ht.1, hs.1, he⟩
    · exact String.toList_inj.1 ((toList_line _).trans hline.symm)
  · rintro ⟨f, hfits, rfl, rfl⟩
    exact foreignKey?_eq_some_iff.2 ⟨f.indent, f.constraint, f.column, f.table, f.referenced,
      f.tail, f.indent.property, ⟨hfits.constraint, f.constraint.property⟩,
      ⟨hfits.column, f.column.property⟩, ⟨hfits.table, f.table.property⟩,
      ⟨hfits.referenced, f.referenced.property⟩, hfits.tail, f.toList_line, rfl⟩

theorem isSome_foreignKey?_line_iff (f : ConstraintForm) :
    (mysql.foreignKey? f.line).isSome = true ↔ f.Fits := by
  rw [Option.isSome_iff_exists]
  constructor
  · rintro ⟨k, hk⟩
    obtain ⟨g, hfits, hline, _⟩ := foreignKey?_eq_some_iff_exists_form.1 hk
    rwa [line_injective hline] at hfits
  · intro hfits
    exact ⟨f.key, foreignKey?_eq_some_iff_exists_form.2 ⟨f, hfits, rfl, rfl⟩⟩

theorem key_eq_iff {f g : ConstraintForm} :
    f.key = g.key ↔ f.column = g.column ∧ f.table = g.table ∧ f.referenced = g.referenced := by
  simp only [key, ForeignKey.mk.injEq, Option.some.injEq, String.ofList_inj, Subtype.ext_iff]

end ConstraintForm

abbrev ForeignKeyForm := { f : ConstraintForm // f.Fits }

namespace ForeignKeyForm

def line (f : ForeignKeyForm) : String := f.val.line

def key (f : ForeignKeyForm) : ForeignKey := f.val.key

theorem line_injective : Function.Injective line := by
  intro f g h
  exact Subtype.ext (ConstraintForm.line_injective h)

theorem readsExactly : ReadsExactly mysql.foreignKey? line key := by
  refine readsExactly_of_iff ?_ line_injective
  intro s k
  rw [ConstraintForm.foreignKey?_eq_some_iff_exists_form]
  constructor
  · rintro ⟨f, hfits, hline, hkey⟩
    exact ⟨⟨f, hfits⟩, hline, hkey⟩
  · rintro ⟨f, hline, hkey⟩
    exact ⟨f.val, f.property, hline, hkey⟩

end ForeignKeyForm

theorem foreignKey?_reads_three_names :
    ReadsExactly mysql.foreignKey? ForeignKeyForm.line ForeignKeyForm.key ∧
      Function.Injective ConstraintForm.line ∧
      (∀ f : ConstraintForm, (mysql.foreignKey? f.line).isSome = true ↔ f.Fits) ∧
      ∀ f g : ForeignKeyForm, mysql.foreignKey? f.line = mysql.foreignKey? g.line ↔
        f.val.column = g.val.column ∧ f.val.table = g.val.table ∧
          f.val.referenced = g.val.referenced := by
  refine ⟨ForeignKeyForm.readsExactly, ConstraintForm.line_injective,
    ConstraintForm.isSome_foreignKey?_line_iff, ?_⟩
  intro f g
  rw [ForeignKeyForm.readsExactly.read_line f, ForeignKeyForm.readsExactly.read_line g,
    Option.some_inj]
  exact ConstraintForm.key_eq_iff

end SchemaDiagram.Ddl

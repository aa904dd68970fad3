import SchemaDiagram.Proofs.Ddl.Form
import SchemaDiagram.Proofs.Ddl.KeyLine

namespace SchemaDiagram.Ddl

open Text

structure ListForm where
  first : KeyName
  more : List (Blanks × KeyName)

namespace ListForm

def moreText (more : List (Blanks × KeyName)) : List Char :=
  more.flatMap fun p => ',' :: (p.1 ++ ticked p.2)

def text (l : ListForm) : List Char := ticked l.first ++ moreText l.more

def names (l : ListForm) : List (List Char) := l.first :: l.more.map fun p => p.2

def columns (l : ListForm) : List String := (l.names.filter (· ≠ [])).map String.ofList

theorem moreText_cons_append (p : Blanks × KeyName) (more : List (Blanks × KeyName))
    (r : List Char) :
    moreText (p :: more) ++ r = ',' :: (p.1 ++ (ticked p.2 ++ (moreText more ++ r))) := by
  rw [moreText, List.flatMap_cons, List.cons_append, List.cons_append, List.append_assoc,
    List.append_assoc]
  rfl

theorem moreText_append_inj {more more' : List (Blanks × KeyName)} {r s : List Char}
    (hr : Stops (· == ',') r) (hs : Stops (· == ',') s)
    (h : moreText more ++ r = moreText more' ++ s) : more = more' ∧ r = s := by
  have hcomma {t u : List Char} (ht : Stops (· == ',') t) : t ≠ ',' :: u := by
    rintro rfl
    cases ht ',' rfl
  induction more generalizing more' with
  | nil =>
      cases more' with
      | nil => exact ⟨rfl, h⟩
      | cons q more' =>
          rw [moreText_cons_append] at h
          exact absurd h (hcomma hr)
  | cons p more ih =>
      cases more' with
      | nil =>
          rw [moreText_cons_append] at h
          exact absurd h.symm (hcomma hs)
      | cons q more' =>
          have hstop (n : KeyName) (t : List Char) : Stops isBlank (ticked n.val ++ t) :=
            stops_ticked_append (by decide) n t
          rw [moreText_cons_append, moreText_cons_append] at h
          obtain ⟨hgap, htext⟩ := blanks_append_inj (hstop _ _) (hstop _ _) (List.cons.inj h).2
          obtain ⟨hname, htext⟩ := ticked_append_inj p.2.property.2 q.2.property.2 htext
          obtain ⟨rfl, hrest⟩ := ih htext
          exact ⟨by rw [Prod.ext hgap (Subtype.ext hname)], hrest⟩

theorem text_append_inj {l m : ListForm} {r s : List Char} (hr : Stops (· == ',') r)
    (hs : Stops (· == ',') s) (h : l.text ++ r = m.text ++ s) : l = m ∧ r = s := by
  rw [text, text, List.append_assoc, List.append_assoc] at h
  obtain ⟨hfirst, h⟩ := ticked_append_inj l.first.property.2 m.first.property.2 h
  obtain ⟨hmore, hrest⟩ := moreText_append_inj hr hs h
  obtain ⟨first, more⟩ := l
  obtain ⟨first', more'⟩ := m
  obtain rfl : first = first' := Subtype.ext hfirst
  obtain rfl : more = more' := hmore
  exact ⟨rfl, hrest⟩

theorem quotedTail_iff {text : List Char} {names : List (List Char)} :
    QuotedTail text names ↔
      ∃ more, moreText more = text ∧ (more.map fun p => p.2.val) = names := by
  constructor
  · intro h
    induction h with
    | nil => exact ⟨[], rfl, rfl⟩
    | @cons n gap text names hkey hgap _ ih =>
        obtain ⟨more, rfl, rfl⟩ := ih
        refine ⟨(⟨gap, hgap⟩, ⟨n, hkey⟩) :: more, ?_, rfl⟩
        simpa using moreText_cons_append (⟨gap, hgap⟩, ⟨n, hkey⟩) more []
  · rintro ⟨more, rfl, rfl⟩
    induction more with
    | nil => exact .nil
    | cons p more ih =>
        have htext := moreText_cons_append p more []
        rw [List.append_nil, List.append_nil] at htext
        rw [htext, List.map_cons]
        exact .cons p.2.property p.1.property ih

theorem quotedList_iff {text : List Char} {names : List (List Char)} :
    QuotedList text names ↔ ∃ l : ListForm, l.text = text ∧ l.names = names := by
  constructor
  · rintro ⟨hkey, htail⟩
    obtain ⟨more, rfl, rfl⟩ := quotedTail_iff.1 htail
    exact ⟨⟨⟨_, hkey⟩, more⟩, rfl, rfl⟩
  · rintro ⟨l, rfl, rfl⟩
    exact .mk l.first.property (quotedTail_iff.2 ⟨l.more, rfl, rfl⟩)

theorem columns_ne_nil_iff {l : ListForm} :
    l.names.filter (· ≠ []) ≠ [] ↔ ∃ n ∈ l.names, n ≠ [] := by
  simp

end ListForm

structure PrimaryKeyForm where
  indent : Blanks
  list : ListForm
  exists_name : ∃ n ∈ list.names, n ≠ []
  ending : Ending

namespace PrimaryKeyForm

def key (f : PrimaryKeyForm) : PrimaryKey where
  columns := f.list.columns

def line (f : PrimaryKeyForm) : String :=
  String.ofList (f.indent ++ ("PRIMARY KEY (".toList ++ (f.list.text
    ++ (")".toList ++ f.ending.text))))

theorem toList_line (f : PrimaryKeyForm) :
    f.line.toList = f.indent ++ ("PRIMARY KEY (".toList ++ (f.list.text
      ++ (")".toList ++ f.ending.text))) :=
  String.toList_ofList

theorem primaryKey?_eq_some_iff_exists_form {line : String} {k : PrimaryKey} :
    mysql.primaryKey? line = some k ↔ ∃ f : PrimaryKeyForm, f.line = line ∧ f.key = k := by
  constructor
  · intro h
    obtain ⟨b, text, names, e, hb, hlist, he, hne, hline, rfl⟩ := primaryKey?_eq_some_iff.1 h
    obtain ⟨list, rfl, rfl⟩ := ListForm.quotedList_iff.1 hlist
    obtain ⟨ending, rfl⟩ := endsDefinition_iff.1 he
    refine ⟨⟨⟨b, hb⟩, list, ListForm.columns_ne_nil_iff.1 hne, ending⟩, ?_, rfl⟩
    exact String.toList_inj.1 ((toList_line _).trans hline.symm)
  · rintro ⟨f, rfl, rfl⟩
    exact primaryKey?_eq_some_iff.2 ⟨f.indent, f.list.text, f.list.names, f.ending.text,
      f.indent.property, ListForm.quotedList_iff.2 ⟨f.list, rfl, rfl⟩,
      f.ending.endsDefinition_text, ListForm.columns_ne_nil_iff.2 f.exists_name, f.toList_line,
      rfl⟩

theorem line_injective : Function.Injective line := by
  rintro ⟨b, list, hlist, e⟩ ⟨b', list', hlist', e'⟩ h
  have hword (r : List Char) : Stops isBlank ("PRIMARY KEY (".toList ++ r) :=
    stops_toList_append (c := 'P') (by decide) (by decide) r
  have htext := congrArg String.toList h
  rw [toList_line, toList_line] at htext
  obtain ⟨hindent, htext⟩ := blanks_append_inj (hword _) (hword _) htext
  obtain ⟨hnames, htext⟩ :=
    ListForm.text_append_inj (stops_comma_close _) (stops_comma_close _) (List.append_cancel_left htext)
  have hending := Ending.text_injective (List.append_cancel_left htext)
  obtain rfl : b = b' := hindent
  obtain rfl : list = list' := hnames
  obtain rfl : e = e' := hending
  rfl

end PrimaryKeyForm

structure UniqueKeyForm where
  indent : Blanks
  name : KeyName
  list : ListForm
  tail : OneLine

namespace UniqueKeyForm

def key (f : UniqueKeyForm) : UniqueKey where
  name := String.ofList f.name
  columns := f.list.columns

def line (f : UniqueKeyForm) : String :=
  String.ofList (f.indent ++ ("UNIQUE KEY ".toList ++ (ticked f.name ++ (" (".toList
    ++ (f.list.text ++ (")".toList ++ f.tail))))))

theorem toList_line (f : UniqueKeyForm) :
    f.line.toList = f.indent ++ ("UNIQUE KEY ".toList ++ (ticked f.name ++ (" (".toList
      ++ (f.list.text ++ (")".toList ++ f.tail))))) :=
  String.toList_ofList

theorem uniqueKey?_eq_some_iff_exists_form {line : String} {k : UniqueKey} :
    mysql.uniqueKey? line = some k ↔ ∃ f : UniqueKeyForm, f.line = line ∧ f.key = k := by
  constructor
  · intro h
    obtain ⟨b, n, text, names, e, hb, hn, hlist, he, hline, rfl⟩ := uniqueKey?_eq_some_iff.1 h
    obtain ⟨list, rfl, rfl⟩ := ListForm.quotedList_iff.1 hlist
    refine ⟨⟨⟨b, hb⟩, ⟨n, hn⟩, list, ⟨e, he⟩⟩, ?_, rfl⟩
    exact String.toList_inj.1 ((toList_line _).trans hline.symm)
  · rintro ⟨f, rfl, rfl⟩
    exact uniqueKey?_eq_some_iff.2 ⟨f.indent, f.name, f.list.text, f.list.names, f.tail,
      f.indent.property, f.name.property, ListForm.quotedList_iff.2 ⟨f.list, rfl, rfl⟩,
      f.tail.property, f.toList_line, rfl⟩

theorem line_injective : Function.Injective line := by
  rintro ⟨b, n, list, e⟩ ⟨b', n', list', e'⟩ h
  have hword (r : List Char) : Stops isBlank ("UNIQUE KEY ".toList ++ r) :=
    stops_toList_append (c := 'U') (by decide) (by decide) r
  have htext := congrArg String.toList h
  rw [toList_line, toList_line] at htext
  obtain ⟨hindent, htext⟩ := blanks_append_inj (hword _) (hword _) htext
  obtain ⟨hname, htext⟩ :=
    ticked_append_inj n.property.2 n'.property.2 (List.append_cancel_left htext)
  obtain ⟨hnames, htext⟩ :=
    ListForm.text_append_inj (stops_comma_close _) (stops_comma_close _) (List.append_cancel_left htext)
  have htail := Subtype.ext (List.append_cancel_left htext)
  obtain rfl : b = b' := hindent
  obtain rfl : n = n' := Subtype.ext hname
  obtain rfl : list = list' := hnames
  obtain rfl : e = e' := htail
  rfl

end UniqueKeyForm

theorem keys_readExactly :
    ReadsExactly mysql.primaryKey? PrimaryKeyForm.line PrimaryKeyForm.key ∧
      ReadsExactly mysql.uniqueKey? UniqueKeyForm.line UniqueKeyForm.key :=
  ⟨readsExactly_of_iff (fun _ _ => PrimaryKeyForm.primaryKey?_eq_some_iff_exists_form)
      PrimaryKeyForm.line_injective,
    readsExactly_of_iff (fun _ _ => UniqueKeyForm.uniqueKey?_eq_some_iff_exists_form)
      UniqueKeyForm.line_injective⟩

end SchemaDiagram.Ddl

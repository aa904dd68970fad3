import SchemaDiagram.Proofs.Assembly.WellFormed

namespace SchemaDiagram

open Text Ddl

namespace Ddl

def tickedTail (names : List String) : List Char := names.flatMap fun n => ',' :: ticked n.toList

def tickedList : List String → List Char
  | [] => ticked []
  | n :: ns => ticked n.toList ++ tickedTail ns

theorem quotedTail_tickedTail {ns : List String} (h : ∀ n ∈ ns, IsKeyName n.toList) :
    QuotedTail (tickedTail ns) (ns.map String.toList) := by
  induction ns with
  | nil => exact .nil
  | cons n ns ih =>
      obtain ⟨hn, hns⟩ := List.forall_mem_cons.1 h
      have hgap : onlyBlanks [] = true := rfl
      exact .cons hn hgap (ih hns)

theorem filter_ne_nil_map_toList {ns : List String} (h : ∀ n ∈ ns, IsMemberName n) :
    ((ns.map String.toList).filter (· ≠ [])).map String.ofList = ns := by
  rw [List.filter_eq_self.2]
  · simp only [List.map_map, Function.comp_def, String.ofList_toList, List.map_id']
  · intro m hm
    obtain ⟨n, hn, rfl⟩ := List.mem_map.1 hm
    exact decide_eq_true (h n hn).1

theorem quotedList_tickedList {ns : List String} (h : ∀ n ∈ ns, IsMemberName n) :
    ∃ names, QuotedList (tickedList ns) names ∧
      (names.filter (· ≠ [])).map String.ofList = ns := by
  cases ns with
  | nil => exact ⟨[[]], .mk (n := []) ⟨by decide, (fun _ hc => nomatch hc)⟩ .nil, rfl⟩
  | cons n ns =>
      have hkeys : ∀ m ∈ n :: ns, IsKeyName m.toList := fun m hm => (h m hm).2
      obtain ⟨hn, hns⟩ := List.forall_mem_cons.1 hkeys
      exact ⟨(n :: ns).map String.toList, .mk hn (quotedTail_tickedTail hns),
        filter_ne_nil_map_toList h⟩

end Ddl

def PrimaryKey.declaration (k : PrimaryKey) : List Char :=
  "PRIMARY KEY (".toList ++ (tickedList k.columns ++ ")".toList)

def UniqueKey.declaration (k : UniqueKey) : List Char :=
  "UNIQUE KEY ".toList ++ (ticked k.name.toList ++ (" (".toList
    ++ (tickedList k.columns ++ ")".toList)))

def ForeignKey.declaration (k : ForeignKey) : List Char :=
  "CONSTRAINT ".toList ++ (ticked (k.column.getD "").toList ++ (" FOREIGN KEY (".toList
    ++ (ticked (k.column.getD "").toList ++ (") REFERENCES ".toList
      ++ (ticked (k.referencedTable.getD "").toList ++ (" (".toList
        ++ (ticked (k.referencedColumn.getD "").toList ++ ")".toList)))))))

theorem PrimaryKey.declaration_append (k : PrimaryKey) (r : List Char) :
    k.declaration ++ r =
      "PRIMARY KEY (".toList ++ (tickedList k.columns ++ (")".toList ++ r)) := by
  unfold declaration
  simp only [List.append_assoc]

theorem UniqueKey.declaration_append (k : UniqueKey) (r : List Char) :
    k.declaration ++ r = "UNIQUE KEY ".toList ++ (ticked k.name.toList ++ (" (".toList
      ++ (tickedList k.columns ++ (")".toList ++ r)))) := by
  unfold declaration
  simp only [List.append_assoc]

theorem ForeignKey.declaration_append (k : ForeignKey) (r : List Char) :
    k.declaration ++ r =
      "CONSTRAINT ".toList ++ (ticked (k.column.getD "").toList ++ (" FOREIGN KEY (".toList
        ++ (ticked (k.column.getD "").toList ++ (") REFERENCES ".toList
          ++ (ticked (k.referencedTable.getD "").toList ++ (" (".toList
            ++ (ticked (k.referencedColumn.getD "").toList ++ (")".toList ++ r)))))))) := by
  unfold declaration
  simp only [List.append_assoc]

inductive Clause where
  | column (c : Column)
  | primaryKey (k : PrimaryKey)
  | uniqueKey (k : UniqueKey)
  | foreignKey (k : ForeignKey)
  deriving DecidableEq, Repr

namespace Clause

def kind : Clause → LineKind
  | column _ => .column
  | primaryKey _ => .primaryKey
  | uniqueKey _ => .uniqueKey
  | foreignKey _ => .foreignKey

def declaration : Clause → List Char
  | column c => c.declaration
  | primaryKey k => k.declaration
  | uniqueKey k => k.declaration
  | foreignKey k => k.declaration

def WellFormed : Clause → Prop
  | column c => c.WellFormed
  | primaryKey k => k.WellFormed
  | uniqueKey k => k.WellFormed
  | foreignKey k => k.WellFormed

def column? : Clause → Option Column
  | column c => some c.unmarked
  | _ => none

def primaryKey? : Clause → Option PrimaryKey
  | primaryKey k => some k
  | _ => none

def uniqueKey? : Clause → Option UniqueKey
  | uniqueKey k => some k
  | _ => none

def foreignKey? : Clause → Option ForeignKey
  | foreignKey k => some k
  | _ => none

def line (more : Bool) (x : Clause) : String :=
  String.ofList ("  ".toList ++ (x.declaration ++ flagText "," more))

def lines : List Clause → List String
  | [] => []
  | x :: xs => x.line (!xs.isEmpty) :: lines xs

variable {x : Clause}

theorem endsDefinition_flagText (more : Bool) : endsDefinition (flagText "," more) = true := by
  cases more <;> decide

theorem lineFeed_not_mem_flagText (more : Bool) : '\n' ∉ flagText "," more := by
  cases more <;> decide

theorem opens_line (x : Clause) (more : Bool) : x.kind.Opens (x.line more).toList := by
  rw [line, String.toList_ofList]
  cases x with
  | column c =>
      rw [declaration, Column.declaration, List.append_assoc, ticked_append]
      exact LineKind.opens_append (by decide) _
  | primaryKey k =>
      change LineKind.primaryKey.Opens _
      rw [declaration, PrimaryKey.declaration_append]
      exact LineKind.opens_append (by decide) _
  | uniqueKey k =>
      change LineKind.uniqueKey.Opens _
      rw [declaration, UniqueKey.declaration_append]
      exact LineKind.opens_append (by decide) _
  | foreignKey k =>
      change LineKind.foreignKey.Opens _
      rw [declaration, ForeignKey.declaration_append]
      exact LineKind.opens_append (by decide) _

theorem not_opens_line {k : LineKind} (h : x.kind ≠ k) (more : Bool) :
    ¬ k.Opens (x.line more).toList :=
  fun hk => h (LineKind.eq_of_opens (opens_line x more) hk)

theorem column?_line (h : x.WellFormed) (more : Bool) :
    mysql.column? (x.line more) = x.column? := by
  cases x with
  | column c =>
      change Ddl.column? (String.ofList _).toList = some c.unmarked
      rw [String.toList_ofList]
      exact column?_complete (c := c.unmarked) ⟨h.name, h.type, h.scale, h.defaultText⟩ rfl rfl
        (by decide) (endsDefinition_flagText more)
  | primaryKey _ | uniqueKey _ | foreignKey _ =>
      refine mysql_column?_eq_none (not_opens_line ?_ more)
      intro heq
      cases heq

theorem primaryKey?_line (h : x.WellFormed) (more : Bool) :
    mysql.primaryKey? (x.line more) = x.primaryKey? := by
  cases x with
  | primaryKey k =>
      change Ddl.primaryKey? (String.ofList _).toList = some k
      obtain ⟨names, hnames, heq⟩ := quotedList_tickedList h.columns
      rw [String.toList_ofList, primaryKey?_eq_some_iff]
      refine ⟨"  ".toList, _, names, flagText "," more, by decide, hnames,
        endsDefinition_flagText more, ?_, ?_, by rw [heq]⟩
      · intro hnil
        rw [hnil] at heq
        exact h.ne_nil heq.symm
      · rw [declaration, PrimaryKey.declaration_append]
  | column _ | uniqueKey _ | foreignKey _ =>
      refine mysql_primaryKey?_eq_none (not_opens_line ?_ more)
      intro heq
      cases heq

theorem uniqueKey?_line (h : x.WellFormed) (more : Bool) :
    mysql.uniqueKey? (x.line more) = x.uniqueKey? := by
  cases x with
  | uniqueKey k =>
      change Ddl.uniqueKey? (String.ofList _).toList = some k
      obtain ⟨names, hnames, heq⟩ := quotedList_tickedList h.columns
      rw [String.toList_ofList, uniqueKey?_eq_some_iff]
      refine ⟨"  ".toList, _, _, names, flagText "," more, by decide, h.name, hnames,
        lineFeed_not_mem_flagText more, ?_, by rw [heq, String.ofList_toList]⟩
      rw [declaration, UniqueKey.declaration_append]
  | column _ | primaryKey _ | foreignKey _ =>
      refine mysql_uniqueKey?_eq_none (not_opens_line ?_ more)
      intro heq
      cases heq

theorem foreignKey?_line (h : x.WellFormed) (more : Bool) :
    mysql.foreignKey? (x.line more) = x.foreignKey? := by
  cases x with
  | foreignKey k =>
      change Ddl.foreignKey? (String.ofList _).toList = some k
      obtain ⟨_, _, _⟩ := k
      obtain ⟨⟨c, rfl, hc⟩, ⟨t, rfl, ht⟩, ⟨s, rfl, hs⟩⟩ := h
      rw [String.toList_ofList, foreignKey?_eq_some_iff]
      refine ⟨"  ".toList, _, _, _, _, flagText "," more, by decide, hc, hc, ht, hs,
        lineFeed_not_mem_flagText more, ?_, by simp only [String.ofList_toList]⟩
      exact congrArg _ (ForeignKey.declaration_append _ _)
  | column _ | primaryKey _ | uniqueKey _ =>
      refine mysql_foreignKey?_eq_none (not_opens_line ?_ more)
      intro heq
      cases heq

theorem filterMap_lines {α : Type} {read : String → Option α} {part : Clause → Option α}
    {xs : List Clause} (h : ∀ x ∈ xs, ∀ more, read (x.line more) = part x) :
    (lines xs).filterMap read = xs.filterMap part := by
  induction xs with
  | nil => rfl
  | cons x xs ih =>
      obtain ⟨hx, hxs⟩ := List.forall_mem_cons.1 h
      rw [lines, List.filterMap_cons, List.filterMap_cons, hx, ih hxs]

end Clause

end SchemaDiagram

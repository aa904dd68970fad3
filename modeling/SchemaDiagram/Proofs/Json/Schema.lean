import SchemaDiagram.Proofs.Json.Printing
import SchemaDiagram.Proofs.Json.Reading

namespace SchemaDiagram

namespace JsonValue

variable {α : Type}

def member? (name : String) : JsonValue → Option JsonValue
  | .object members => members.lookup name
  | _ => none

def text? : JsonValue → Option String
  | .text s => some s
  | _ => none

def optionalText? : JsonValue → Option (Option String)
  | .null => some none
  | .text s => some (some s)
  | _ => none

def flag? : JsonValue → Option Bool
  | .bool b => some b
  | _ => none

def listOf? (read : JsonValue → Option α) : JsonValue → Option (List α)
  | .array items => items.mapM read
  | _ => none

theorem optionalText?_ofOption (s : Option String) : (ofOption s).optionalText? = some s := by
  cases s <;> rfl

theorem listOf?_array_map {read : JsonValue → Option α} {write : α → JsonValue}
    (h : ∀ a, read (write a) = some a) (l : List α) :
    listOf? read (.array (l.map write)) = some l := by
  rw [listOf?]
  induction l with
  | nil => rfl
  | cons a l ih => simp [h, ih]

theorem listOf?_ofTexts (l : List String) : listOf? text? (ofTexts l) = some l := by
  have htext : ∀ s, text? (.text s) = some s := fun _ => rfl
  exact listOf?_array_map htext l

end JsonValue

open JsonValue

def Column.ofJson? (v : JsonValue) : Option Column := do
  some {
    name := ← (← v.member? "name").text?
    type := ← (← v.member? "type").optionalText?
    scale := ← (← v.member? "scale").optionalText?
    notNull := ← (← v.member? "not_null").flag?
    autoIncrement := ← (← v.member? "auto_increment").flag?
    defaultText := ← (← v.member? "default_value").optionalText?
    primary := ← (← v.member? "primary").flag?
    foreign := ← (← v.member? "foreign").flag? }

def ForeignKey.ofJson? (v : JsonValue) : Option ForeignKey := do
  some {
    column := ← (← v.member? "foreign_key_name").optionalText?
    referencedTable := ← (← v.member? "source_table").optionalText?
    referencedColumn := ← (← v.member? "source_column").optionalText? }

def PrimaryKey.ofJson? (v : JsonValue) : Option PrimaryKey := do
  some { columns := ← (← v.member? "key_name").listOf? text? }

def UniqueKey.ofJson? (v : JsonValue) : Option UniqueKey := do
  some {
    name := ← (← v.member? "index_name").text?
    columns := ← (← v.member? "column_names").listOf? text? }

def Table.ofJson? (v : JsonValue) : Option Table := do
  some {
    name := ← (← v.member? "name").text?
    columns := ← (← v.member? "columns").listOf? Column.ofJson?
    foreignKeys := ← (← v.member? "foreign_keys").listOf? ForeignKey.ofJson?
    primaryKeys := ← (← v.member? "primary_keys").listOf? PrimaryKey.ofJson?
    uniqueKeys := ← (← v.member? "unique_constraints").listOf? UniqueKey.ofJson? }

theorem Column.ofJson?_toJson (c : Column) : ofJson? c.toJson = some c := by
  simp [ofJson?, toJson, member?, List.lookup_cons, text?, flag?, optionalText?_ofOption]

theorem ForeignKey.ofJson?_toJson (k : ForeignKey) : ofJson? k.toJson = some k := by
  simp [ofJson?, toJson, member?, List.lookup_cons, optionalText?_ofOption]

theorem PrimaryKey.ofJson?_toJson (k : PrimaryKey) : ofJson? k.toJson = some k := by
  simp [ofJson?, toJson, member?, listOf?_ofTexts]

theorem UniqueKey.ofJson?_toJson (k : UniqueKey) : ofJson? k.toJson = some k := by
  simp [ofJson?, toJson, member?, List.lookup_cons, text?, listOf?_ofTexts]

theorem Table.ofJson?_toJson (t : Table) : ofJson? t.toJson = some t := by
  simp [ofJson?, toJson, member?, List.lookup_cons, text?, listOf?_array_map,
    Column.ofJson?_toJson, ForeignKey.ofJson?_toJson, PrimaryKey.ofJson?_toJson,
    UniqueKey.ofJson?_toJson]

/-- The text is a JSON array with one entry for each of these tables, in their order. -/
def TellsTables (text : String) (tables : List Table) : Prop :=
  ∃ v, IsDocument text v ∧ v.listOf? Table.ofJson? = some tables

theorem isDocument_exportText (tables : List Table) :
    IsDocument (exportText tables) (.array (tables.map Table.toJson)) := by
  have h := Padded.mk (List.forall_mem_nil _)
    (spells_pretty 0 (.array (tables.map Table.toJson))) isGap_newline
  rw [IsDocument, exportText, String.toList_append]
  exact h

theorem tellsTables_exportText_iff {tables others : List Table} :
    TellsTables (exportText tables) others ↔ others = tables := by
  have hread := listOf?_array_map Table.ofJson?_toJson tables
  constructor
  · rintro ⟨v, hv, hothers⟩
    rw [eq_of_isDocument hv (isDocument_exportText tables), hread] at hothers
    exact (Option.some.inj hothers).symm
  · rintro rfl
    exact ⟨_, isDocument_exportText _, hread⟩

end SchemaDiagram

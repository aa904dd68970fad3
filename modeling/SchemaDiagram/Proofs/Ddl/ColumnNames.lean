import Mathlib.Tactic.MkIffOfInductiveProp
import SchemaDiagram.Proofs.Ddl.ColumnList
import SchemaDiagram.Proofs.Ddl.Form

namespace SchemaDiagram.Ddl

open Text

@[mk_iff]
structure IsListed (n : String) : Prop where
  ne_empty : n ≠ ""
  comma_not_mem : ',' ∉ n.toList
  head?_ne : n.toList.head? ≠ some tick
  getLast?_ne : n.toList.getLast? ≠ some tick

instance : DecidablePred IsListed := fun n => decidable_of_iff _ (isListed_iff n).symm

structure QuotedPiece where
  before : Blanks
  name : { n : String // IsListed n }
  behind : Blanks

namespace QuotedPiece

def text (q : QuotedPiece) : String :=
  String.ofList (q.before ++ (ticked q.name.val.toList ++ q.behind))

theorem comma_not_mem_text (q : QuotedPiece) : ',' ∉ q.text.toList := by
  rw [text, String.toList_ofList]
  exact comma_not_mem_padded q.before.property q.behind.property q.name.property.comma_not_mem

theorem bareName_text (q : QuotedPiece) : bareName q.text.toList = q.name.val.toList := by
  have hhead := stops_beq_iff.2 q.name.property.head?_ne
  have hlast := stops_reverse_beq_iff.2 q.name.property.getLast?_ne
  rw [text, String.toList_ofList]
  exact bareName_padded q.before.property q.behind.property hhead hlast

theorem toList_name_ne_nil (q : QuotedPiece) : q.name.val.toList ≠ [] := by
  rw [Ne, String.toList_eq_nil_iff]
  exact q.name.property.ne_empty

end QuotedPiece

theorem columnList_intercalate_text (qs : List QuotedPiece) :
    columnList (",".intercalate (qs.map QuotedPiece.text)) = qs.map fun q => q.name.val := by
  rcases eq_or_ne qs [] with rfl | hne
  · -- The empty text still has one piece, and its empty name is left out.
    rfl
  have hcomma : ∀ s ∈ (qs.map QuotedPiece.text).map String.toList, ',' ∉ s := by
    simpa using fun q _ => q.comma_not_mem_text
  have hnames : ((qs.map QuotedPiece.text).map String.toList).map bareName =
      qs.map fun q => q.name.val.toList := by
    simp only [List.map_map, Function.comp_def, QuotedPiece.bareName_text]
  have hkeep : ∀ n ∈ qs.map (fun q => q.name.val.toList), decide (n ≠ []) = true := by
    intro n hn
    obtain ⟨q, _, rfl⟩ := List.mem_map.1 hn
    exact decide_eq_true q.toList_name_ne_nil
  have hseparator : ",".toList = [','] := rfl
  rw [columnList, columnNames, String.toList_intercalate, hseparator,
    List.splitOn_intercalate ',' hcomma (by simpa using hne), hnames,
    List.filter_eq_self.2 hkeep]
  simp only [List.map_map, Function.comp_def, String.ofList_toList]

theorem isListed_of_mem_columnList {n text : String} (h : n ∈ columnList text) : IsListed n := by
  obtain ⟨m, hm, rfl⟩ := List.mem_map.1 h
  obtain ⟨hm, hne⟩ := List.mem_filter.1 hm
  obtain ⟨piece, hpiece, rfl⟩ := List.mem_map.1 hm
  have hcomma : ',' ∉ bareName piece := fun hmem =>
    (of_mem_splitOn hpiece).1 (bareName_subset piece hmem)
  rw [isListed_iff, Ne, String.ofList_eq_empty_iff, String.toList_ofList]
  exact ⟨of_decide_eq_true hne, hcomma, stops_beq_iff.1 (stops_bareName piece),
    stops_reverse_beq_iff.1 (stops_reverse_bareName piece)⟩

theorem length_columnList_le (text : String) :
    (columnList text).length ≤ text.toList.count ',' + 1 := by
  have hpieces : ((text.toList.splitOn ',').map bareName).length = text.toList.count ',' + 1 := by
    rw [List.length_map, length_splitOn]
  rw [columnList, columnNames, List.length_map, ← hpieces]
  exact List.length_filter_le _ _

theorem columnList_undoes_quoting :
    (∀ qs : List QuotedPiece,
      columnList (",".intercalate (qs.map QuotedPiece.text)) = qs.map fun q => q.name.val) ∧
      ∀ text, (∀ n ∈ columnList text, IsListed n) ∧
        (columnList text).length ≤ text.toList.count ',' + 1 :=
  ⟨columnList_intercalate_text,
    fun text => ⟨fun _ => isListed_of_mem_columnList, length_columnList_le text⟩⟩

def streetPieces : List QuotedPiece := [
  { before := ⟨['\n', '\t'], by decide⟩
    name := ⟨"straße", by decide⟩
    behind := ⟨['\u3000'], by decide⟩ },
  { before := ⟨[], by decide⟩
    name := ⟨" no\x60. ", by decide⟩
    behind := ⟨[' '], by decide⟩ }]

def untidyList : String := "\x60\x60 no\x60. \x60,,straße"

theorem streetPieces_undo_quoting :
    ",".intercalate (streetPieces.map QuotedPiece.text) =
        "\n\t\x60straße\x60\u3000,\x60 no\x60. \x60 " ∧
      columnList "\n\t\x60straße\x60\u3000,\x60 no\x60. \x60 " = ["straße", " no\x60. "] ∧
      " no\x60. " ∈ columnList untidyList ∧ IsListed " no\x60. " ∧
      untidyList.toList.count ',' = 2 ∧ (columnList untidyList).length ≤ 2 + 1 := by
  have htext : ",".intercalate (streetPieces.map QuotedPiece.text) =
      "\n\t\x60straße\x60\u3000,\x60 no\x60. \x60 " := by decide +kernel
  have hnames : (streetPieces.map fun q => q.name.val) = ["straße", " no\x60. "] := rfl
  have hmem : " no\x60. " ∈ columnList untidyList := by decide +kernel
  have hcommas : untidyList.toList.count ',' = 2 := by decide +kernel
  obtain ⟨hquoted, hany⟩ := columnList_undoes_quoting
  obtain ⟨hlisted, hlength⟩ := hany untidyList
  have hread := hquoted streetPieces
  rw [htext, hnames] at hread
  rw [hcommas] at hlength
  exact ⟨htext, hread, hmem, hlisted _ hmem, hcommas, hlength⟩

end SchemaDiagram.Ddl

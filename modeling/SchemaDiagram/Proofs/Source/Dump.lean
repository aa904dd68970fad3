import Mathlib.Data.List.Forall2
import SchemaDiagram.Proofs.Ddl.Concatenation
import SchemaDiagram.Proofs.Harvest
import SchemaDiagram.Proofs.Source.Opening
import SchemaDiagram.Proofs.Text.Lines

namespace SchemaDiagram.Source

open Text Ddl

theorem textLines_append {text : String} (h : EndsLine text.toList) (rest : String) :
    textLines (text ++ rest) = textLines text ++ textLines rest := by
  rw [textLines, String.toList_append, lines_append h, List.map_append, textLines, textLines]

theorem textLines_join {texts : List String} (h : ∀ text ∈ texts, EndsLine text.toList) :
    textLines (String.join texts) = (texts.map textLines).flatten := by
  induction texts with
  | nil => rfl
  | cons text texts ih =>
      obtain ⟨htext, htexts⟩ := List.forall_mem_cons.1 h
      rw [String.join_cons, textLines_append htext, ih htexts, List.map_cons, List.flatten_cons]

theorem statements_textLines_join {texts : List String}
    (hends : ∀ text ∈ texts, EndsLine text.toList)
    (hstatements : ∀ text ∈ texts, IsStatement (textLines text)) :
    Ddl.statements (textLines (String.join texts)) = texts.map textLines := by
  rw [textLines_join hends, statements_flatten]
  exact List.forall_mem_map.2 hstatements

variable {w : Workspace} {folder : Location} {parts : FilePattern} {directory pattern : String}
  {names texts : List String}

theorem filter_fits_of_readText (h : List.Forall₂
      (fun name text => w.readText (Path.entry directory name) = .ok text) names texts) :
    (names.map (Path.entry directory)).filter Workspace.fits =
      names.map (Path.entry directory) := by
  induction h with
  | nil => rfl
  | cons hread _ ih =>
      rw [List.map_cons, List.filter_cons_of_pos (Workspace.fits_of_readText hread), ih]

theorem items_files_of_readText (h : List.Forall₂
      (fun name text => w.readText (Path.entry directory name) = .ok text) names texts) :
    (Source.files (names.map (Path.entry directory))).items w =
      (texts.map textLines).map .ok := by
  induction h with
  | nil => rfl
  | cons hread _ ih =>
      rw [List.map_cons, List.map_cons, List.map_cons, ← ih, ← readLines_of_readText hread]
      rfl

def HoldsTexts (w : Workspace) (directory pattern : String) (texts : List String) : Prop :=
  ∃ folder parts names, w.find directory = .ok (folder, .folder) ∧
    FilePattern.parse pattern = .ok parts ∧
    names.Perm ((w.fileNames folder).filter parts.accepts) ∧ names.Pairwise (· ≤ ·) ∧
    List.Forall₂ (fun name text => w.readText (Path.entry directory name) = .ok text) names texts

theorem folder_reads_as_dump {d : Desk} (h : HoldsTexts d.files directory pattern texts)
    (hends : ∀ text ∈ texts, text.toList.getLast? = some '\n')
    (hstatements : ∀ text ∈ texts, IsStatement (textLines text)) :
    ∃ files dump,
      (ofFolder directory pattern).runAt d =
          (.ok files, d.log [.listedFiles directory pattern texts.length]) ∧
        (ofDumpText (String.join texts)).runAt d =
          (.ok dump, d.log [.splitDump texts.length]) ∧
        files.items d.files = (texts.map textLines).map .ok ∧
        dump.items d.files = files.items d.files ∧
        ∀ (dialect : Dialect) (produce : List Table → Job Unit) (desk : Desk),
          (generate dialect produce (files.items d.files)).runAt desk =
              (generate dialect produce (dump.items d.files)).runAt desk ∧
            (generate dialect produce (dump.items d.files)).runAt desk =
              answer ((texts.map textLines).filterMap (Table.ofLines? dialect))
                ((handOver produce ((texts.map textLines).filterMap (Table.ofLines? dialect))).runAt
                  (desk.log (Harvest.groupEvents dialect (texts.map textLines)))) := by
  obtain ⟨folder, parts, names, hfolder, hpattern, hnames, hsorted, htexts⟩ := h
  have hlisting : listing d.files directory folder parts = names.map (Path.entry directory) := by
    rw [listing, matching_eq hnames hsorted, filter_fits_of_readText htexts]
  have hlength : names.length = texts.length := htexts.length_eq
  have hlines : ∀ text ∈ texts, EndsLine text.toList := by
    intro text htext c hc
    rw [hends text htext] at hc
    exact (Option.mem_some.1 hc).symm
  have hdump := statements_textLines_join hlines hstatements
  have hitems := items_files_of_readText htexts
  refine ⟨.files (names.map (Path.entry directory)), .statements (texts.map textLines),
    ?_, ?_, hitems, hitems.symm, ?_⟩
  · rw [runAt_ofFolder hfolder hpattern, hlisting, List.length_map, hlength]
  · rw [runAt_ofDumpText, hdump, List.length_map]
  · intro dialect produce desk
    refine ⟨by rw [hitems]; rfl, ?_⟩
    rw [Source.items, runAt_generate, Harvest.firstError?_map_ok, Harvest.leadingGroups_map_ok]

def guestsText : String := "CREATE TABLE \x60guests\x60 (\r\n  \x60id\x60 int(11) NOT NULL\r\n"

def roomsText : String := "create table \x60rooms\x60 (\n  \x60id\x60 int(11)\n) ENGINE=InnoDB;\n"

def hotelFolder : Workspace :=
  { entries := [(["hotel"], .folder), (["hotel", "rooms.sql"], .file roomsText.toUTF8 false),
      (["hotel", "notes.txt"], .file "".toUTF8 false),
      (["hotel", "guests.sql"], .file guestsText.toUTF8 false)] }

theorem holdsTexts_hotelFolder :
    HoldsTexts hotelFolder "hotel" "*.sql" [guestsText, roomsText] := by
  refine ⟨["hotel"], defaultParts, ["guests.sql", "rooms.sql"], rfl, parse_defaultPattern,
    by decide +kernel, by decide +kernel, ?_⟩
  refine .cons ?_ (.cons ?_ .nil)
  · exact Workspace.readText_eq_ok_iff.2 ⟨["hotel", "guests.sql"], false, rfl⟩
  · exact Workspace.readText_eq_ok_iff.2 ⟨["hotel", "rooms.sql"], false, rfl⟩

theorem isStatement_guestsText : IsStatement (textLines guestsText) := by
  refine ⟨"CREATE TABLE \x60guests\x60 (", ["  \x60id\x60 int(11) NOT NULL"], ?_, ?_, ?_, ?_⟩
  all_goals decide +kernel

theorem isStatement_roomsText : IsStatement (textLines roomsText) := by
  refine ⟨"create table \x60rooms\x60 (", ["  \x60id\x60 int(11)", ") ENGINE=InnoDB;"],
    ?_, ?_, ?_, ?_⟩
  all_goals decide +kernel

theorem hotelFolder_reads_as_dump :
    HoldsTexts hotelFolder "hotel" "*.sql" [guestsText, roomsText] ∧
      ∃ files dump,
        (ofFolder "hotel" "*.sql").runAt { files := hotelFolder } =
            (.ok files, { files := hotelFolder, events := [.listedFiles "hotel" "*.sql" 2] }) ∧
          (ofDumpText (guestsText ++ roomsText)).runAt { files := hotelFolder } =
            (.ok dump, { files := hotelFolder, events := [.splitDump 2] }) ∧
          files.items hotelFolder =
            [.ok (textLines guestsText), .ok (textLines roomsText)] ∧
          dump.items hotelFolder = files.items hotelFolder := by
  obtain ⟨files, dump, hfiles, hdump, hitems, hsame, _⟩ :=
    folder_reads_as_dump (d := { files := hotelFolder }) holdsTexts_hotelFolder (by decide +kernel)
      (List.forall_mem_cons.2 ⟨isStatement_guestsText,
        List.forall_mem_singleton.2 isStatement_roomsText⟩)
  refine ⟨holdsTexts_hotelFolder, files, dump, hfiles, ?_, hitems, hsame⟩
  rwa [String.join_cons, String.join_cons, String.join_nil, String.append_empty] at hdump

end SchemaDiagram.Source

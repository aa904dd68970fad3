import SchemaDiagram.Proofs.Source.Opening
import SchemaDiagram.Proofs.Text.Bytes

namespace SchemaDiagram.Source

open Workspace

variable {d : Desk} {w w' : Workspace} {ws ws' : List Workspace} {folder at_ : Location}
  {parts : FilePattern} {directory pattern path name text : String} {names : List String}

theorem readLines_of_error {cause : AccessFailure} (h : w.readText path = .error cause) :
    readLines w path = .error (.access path cause) := by
  rw [readLines, h]

theorem readText_of_notText {content : ByteArray} {x : Bool}
    (hfind : w.find path = .ok (at_, .file content x)) (htext : ¬content.IsValidUTF8) :
    w.readText path = .error .notText := by
  have hread : w.read path = .ok content := read_eq_ok_iff.2 ⟨at_, x, hfind⟩
  rw [readText, hread]
  simp only [bind, Except.bind, String.fromUTF8?, dif_neg htext]

/-- What a source answers when it is asked again and again, with the files as they are each time,
and what is left of it. -/
def pull : List Workspace → Source → List (Option SourceItem) × Source
  | [], s => ([], s)
  | w :: ws, s =>
      let (item?, s) := s.next w
      let (items, s) := pull ws s
      (item? :: items, s)

theorem pull_cons (w : Workspace) (ws : List Workspace) (s : Source) :
    pull (w :: ws) s = ((s.next w).1 :: (pull ws (s.next w).2).1, (pull ws (s.next w).2).2) := rfl

theorem next_files (w : Workspace) (paths : List String) :
    (Source.files paths).next w = (paths.head?.map (readLines w), .files (paths.drop 1)) := by
  rw [next, items, List.head?_map]
  rfl

theorem pull_files (ws : List Workspace) (paths : List String) :
    pull ws (.files paths) =
      (ws.mapIdx fun i w => paths[i]?.map (readLines w), .files (paths.drop ws.length)) := by
  -- On the times of asking: after the first, the files still to come are other ones.
  induction ws generalizing paths with
  | nil => rfl
  | cons w ws ih =>
      rw [pull_cons, next_files, ih, List.mapIdx_cons, List.drop_drop, List.length_cons,
        Nat.add_comm 1, List.head?_eq_getElem?]
      simp only [List.getElem?_drop, Nat.add_comm 1]

theorem countP_isSome_pull (ws : List Workspace) (paths : List String) :
    (pull ws (.files paths)).1.countP Option.isSome = min ws.length paths.length := by
  induction ws generalizing paths with
  | nil => rw [List.length_nil, Nat.zero_min]; rfl
  | cons w ws ih =>
      rw [pull_cons, next_files]
      dsimp only
      rw [List.countP_cons, ih, Option.isSome_map]
      cases paths with
      | nil => simp
      | cons path paths => simp [Nat.succ_min_succ]

theorem readLines_congr (h : w'.readText = w.readText) : readLines w' = readLines w := by
  funext path
  rw [readLines, readLines, h]

theorem next_congr (h : w'.readText = w.readText) (s : Source) : s.next w' = s.next w := by
  cases s with
  | files paths => rw [next_files, next_files, readLines_congr h]
  | statements groups => rfl

theorem pull_congr (h : List.Forall₂ (fun w w' => w'.readText = w.readText) ws ws') (s : Source) :
    pull ws' s = pull ws s := by
  induction h generalizing s with
  | nil => rfl
  | cons hread _ ih => rw [pull_cons, pull_cons, next_congr hread, ih]

def ofNames (directory : String) (names : List String) : Source :=
  .files (names.map (Path.entry directory))

def enumeration (w : Workspace) (directory : String) (folder : Location) (parts : FilePattern) :
    List String :=
  (matching w folder parts).filter fun name => fits (Path.entry directory name)

def reading (directory : String) (names : List String) (ws : List Workspace) (i : Nat) :
    Option (Option (Except AccessFailure String)) :=
  ws[i]?.map fun w => names[i]?.map fun name => w.readText (Path.entry directory name)

theorem getElem?_pull_congr {i : Nat}
    (h : reading directory names ws i = reading directory names ws' i) :
    (pull ws (ofNames directory names)).1[i]? = (pull ws' (ofNames directory names)).1[i]? := by
  rw [ofNames, pull_files, pull_files, List.getElem?_mapIdx, List.getElem?_mapIdx,
    List.getElem?_map]
  unfold reading at h
  cases hw : ws[i]? with
  | none =>
      rw [hw, Option.map_none] at h
      rw [Option.map_eq_none_iff.1 h.symm, Option.map_none]
  | some w =>
      rw [hw, Option.map_some] at h
      obtain ⟨w', hw', h⟩ := Option.map_eq_some_iff.1 h.symm
      rw [hw', Option.map_some, Option.map_some]
      cases hname : names[i]? with
      | none => rfl
      | some name =>
          rw [hname, Option.map_some, Option.map_some, Option.some.injEq] at h
          rw [Option.map_some, Option.map_some, Option.map_some, readLines, readLines, h]

theorem files_listing (w : Workspace) (directory : String) (folder : Location)
    (parts : FilePattern) :
    Source.files (listing w directory folder parts) =
      ofNames directory (enumeration w directory folder parts) := by
  rw [listing, List.filter_map]
  rfl

theorem mem_enumeration_iff (hfiles : w.WellFormed)
    (hfolder : w.find directory = .ok (folder, .folder)) :
    name ∈ enumeration w directory folder parts ↔ IsEntryName name ∧
      parts.accepts name = true ∧ w.isFile (Path.entry directory name) = true := by
  rw [enumeration, List.mem_filter, (matching_perm w folder parts).mem_iff, List.mem_filter,
    hfiles.mem_fileNames_iff]
  constructor
  · rintro ⟨⟨hfile, haccepts⟩, hfits⟩
    have hname := hfiles.isEntryName_of_hasFile hfile
    exact ⟨hname, haccepts, (isFile_entry_iff hfolder hname).2 ⟨hfits, hfile⟩⟩
  · rintro ⟨hname, haccepts, hisFile⟩
    obtain ⟨hfits, hfile⟩ := (isFile_entry_iff hfolder hname).1 hisFile
    exact ⟨⟨hfile, haccepts⟩, hfits⟩

theorem pairwise_bytes_enumeration (hfiles : w.WellFormed) (directory : String)
    (folder : Location) (parts : FilePattern) :
    (enumeration w directory folder parts).Pairwise fun name name' =>
      name.toUTF8.data.toList < name'.toUTF8.data.toList := by
  have hnodup : (matching w folder parts).Nodup :=
    (matching_perm w folder parts).nodup_iff.2 ((hfiles.nodup_fileNames folder).filter _)
  have hsorted := (pairwise_matching w folder parts).and hnodup
  refine (hsorted.imp ?_).filter _
  rintro name name' ⟨hle, hne⟩
  exact Text.data_toUTF8_lt (Std.lt_of_le_of_ne hle hne)

theorem enumeration_of_sameContent (hsame : w.SameContent w') (directory : String)
    (folder : Location) (parts : FilePattern) :
    enumeration w' directory folder parts = enumeration w directory folder parts := by
  have hmatching : matching w' folder parts = matching w folder parts :=
    matching_eq ((matching_perm w folder parts).trans ((hsame.fileNames folder).filter _))
      (pairwise_matching w folder parts)
  rw [enumeration, enumeration, hmatching]

theorem runAt_ofFolder_eq_enumeration (hfolder : d.files.find directory = .ok (folder, .folder))
    (hpattern : FilePattern.parse pattern = .ok parts) :
    (ofFolder directory pattern).runAt d =
      (.ok (ofNames directory (enumeration d.files directory folder parts)),
        d.log [.listedFiles directory pattern
          (enumeration d.files directory folder parts).length]) := by
  have hlength : (listing d.files directory folder parts).length =
      (enumeration d.files directory folder parts).length := by
    rw [listing, List.filter_map, List.length_map]
    rfl
  rw [runAt_ofFolder hfolder hpattern, files_listing, hlength]

theorem folder_is_enumerated (hfiles : d.files.WellFormed)
    (hfolder : d.files.find directory = .ok (folder, .folder))
    (hpattern : FilePattern.parse pattern = .ok parts) :
    ∃ names : List String,
      (ofFolder directory pattern).runAt d =
          (.ok (ofNames directory names),
            d.log [.listedFiles directory pattern names.length]) ∧
        (∀ name, name ∈ names ↔ IsEntryName name ∧ parts.accepts name = true ∧
          d.files.isFile (Path.entry directory name) = true) ∧
        (∀ name, IsEntryName name → (d.files.isFile (Path.entry directory name) = true ↔
          fits (Path.entry directory name) = true ∧ d.files.HasFile folder name)) ∧
        names.Pairwise (fun name name' => name.toUTF8.data.toList < name'.toUTF8.data.toList) ∧
        (∀ d' : Desk, d.files.SameContent d'.files →
          (ofFolder directory pattern).runAt d' =
            (.ok (ofNames directory names),
              d'.log [.listedFiles directory pattern names.length])) ∧
        (∀ ws, (pull ws (ofNames directory names)).1 =
            ws.mapIdx (fun i w => names[i]?.map fun name =>
              readLines w (Path.entry directory name)) ∧
          (pull ws (ofNames directory names)).2.remaining? = some (names.length - ws.length) ∧
          ∀ ws', (pull ws' (pull ws (ofNames directory names)).2).1.countP Option.isSome =
            min ws'.length (names.length - ws.length)) ∧
        (∀ ws ws', List.Forall₂ (fun w w' => w.WellFormed ∧ w.SameContent w') ws ws' →
          (pull ws' (ofNames directory names)).1 = (pull ws (ofNames directory names)).1) ∧
        (∀ ws ws' i, reading directory names ws i = reading directory names ws' i →
          (pull ws (ofNames directory names)).1[i]? =
            (pull ws' (ofNames directory names)).1[i]?) ∧
        ∀ w path,
          (∀ text, w.readText path = .ok text → readLines w path = .ok (textLines text)) ∧
          (∀ cause, w.readText path = .error cause →
            readLines w path = .error (.access path cause)) ∧
          (∀ at_ content x, w.find path = .ok (at_, .file content x) → ¬content.IsValidUTF8 →
            readLines w path = .error (.access path .notText)) := by
  refine ⟨enumeration d.files directory folder parts,
    runAt_ofFolder_eq_enumeration hfolder hpattern, fun name => mem_enumeration_iff hfiles hfolder,
    fun name => isFile_entry_iff hfolder,
    pairwise_bytes_enumeration hfiles directory folder parts, ?_, ?_, ?_,
    fun ws ws' i => getElem?_pull_congr, ?_⟩
  · intro d' hsame
    have hfolder' : d'.files.find directory = .ok (folder, .folder) := by
      rw [hfiles.find_of_sameContent hsame, hfolder]
    rw [runAt_ofFolder_eq_enumeration hfolder' hpattern, enumeration_of_sameContent hsame]
  · intro ws
    rw [ofNames, pull_files]
    refine ⟨?_, ?_, ?_⟩
    · simp only [List.getElem?_map, Option.map_map, Function.comp_def]
    · simp only [remaining?, List.length_drop, List.length_map]
    · intro ws'
      rw [countP_isSome_pull, List.length_drop, List.length_map]
  · intro ws ws' hsame
    rw [pull_congr (hsame.imp fun w w' h => h.1.readText_of_sameContent h.2)]
  · intro w path
    exact ⟨fun text => readLines_of_readText, fun cause => readLines_of_error,
      fun at_ content x hfind htext => readLines_of_error (readText_of_notText hfind htext)⟩

def latinName : RawName where
  bytes := ⟨#[0xE9, 0x2E, 0x73, 0x71, 0x6C]⟩
  notText := by decide +kernel

def mixedFolder : Workspace where
  entries := [
    (["sql"], .folder),
    (["sql", "z.sql"], .file "z\n".toUTF8 false),
    (["sql", "notes.txt"], .file "".toUTF8 false),
    (["sql", "nested.sql"], .folder),
    (["sql", "é.sql"], .file ⟨#[0xFF]⟩ false)]
  unnamed := [(["sql"], latinName)]

def mixedFolderReversed : Workspace := { mixedFolder with entries := mixedFolder.entries.reverse }

theorem wellFormed_mixedFolder : mixedFolder.WellFormed where
  nodup := by decide +kernel
  entries := by decide +kernel
  current := by decide +kernel

theorem sameContent_mixedFolder : mixedFolder.SameContent mixedFolderReversed where
  entries := (List.reverse_perm _).symm
  unnamed := .refl _
  current := rfl

theorem mixedFolder_is_enumerated :
    mixedFolder.WellFormed ∧ mixedFolder.find "sql" = .ok (["sql"], .folder) ∧
      FilePattern.parse "*.sql" = .ok defaultParts ∧
      ∃ names : List String,
        ((ofFolder "sql" "*.sql").runAt { files := mixedFolder }).1 = .ok (ofNames "sql" names) ∧
        ((ofFolder "sql" "*.sql").runAt { files := mixedFolderReversed }).1 =
          .ok (ofNames "sql" names) ∧
        names = ["z.sql", "é.sql"] ∧
        (pull [mixedFolder, mixedFolder, mixedFolder] (ofNames "sql" names)).1 =
          [some (.ok ["z"]), some (.error (.access "sql/é.sql" .notText)), none] := by
  have hfolder : mixedFolder.find "sql" = .ok (["sql"], .folder) := rfl
  obtain ⟨names, hrun, _, _, _, hsame, hpull, _⟩ :=
    folder_is_enumerated (d := { files := mixedFolder }) wellFormed_mixedFolder hfolder
      parse_defaultPattern
  have hmatching : matching mixedFolder ["sql"] defaultParts = ["z.sql", "é.sql"] :=
    matching_eq (.of_eq (by decide +kernel)) (by decide)
  have hnames : names = ["z.sql", "é.sql"] := by
    have hrun' := runAt_ofFolder_eq_enumeration (d := { files := mixedFolder }) hfolder
      parse_defaultPattern
    rw [hrun, enumeration, hmatching, Prod.mk.injEq, Except.ok.injEq, ofNames, ofNames,
      Source.files.injEq] at hrun'
    rw [List.map_injective_iff.2 (Path.entry_injective "sql") hrun'.1]
    decide +kernel
  have hreversed := hsame { files := mixedFolderReversed } sameContent_mixedFolder
  refine ⟨wellFormed_mixedFolder, hfolder, parse_defaultPattern, names, congrArg Prod.fst hrun,
    congrArg Prod.fst hreversed, hnames, ?_⟩
  rw [(hpull _).1, hnames]
  decide +kernel

end SchemaDiagram.Source

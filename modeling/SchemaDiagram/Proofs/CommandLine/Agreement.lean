import SchemaDiagram.Proofs.Assembly.Reconciliation
import SchemaDiagram.Proofs.CommandLine.ReadOnly
import SchemaDiagram.Proofs.Json.Schema
import SchemaDiagram.Proofs.Rendering.Outcome
import SchemaDiagram.Proofs.Source.Opening
import SchemaDiagram.Proofs.Text.Lines

namespace SchemaDiagram

open Ddl Harvest Source

theorem mem_of_firstError? {items : List SourceItem} {e : Error} (h : firstError? items = some e) :
    .error e ∈ items := by
  obtain ⟨item, hitem, herror⟩ := List.exists_of_findSome?_eq_some h
  cases item with
  | ok group => cases herror
  | error e' => exact Option.some.inj herror ▸ hitem

theorem exists_access_of_error_mem_items {source : Source} {w : Workspace} {e : Error}
    (h : .error e ∈ source.items w) : ∃ path cause, e = .access path cause := by
  cases source with
  | statements groups =>
      obtain ⟨group, _, heq⟩ := List.mem_map.1 h
      cases heq
  | files paths =>
      obtain ⟨path, _, hread⟩ := List.mem_map.1 h
      unfold Source.readLines at hread
      split at hread
      next => cases hread
      next cause _ => exact ⟨path, cause, (Except.error.inj hread).symm⟩

namespace CommandLine

namespace GenerateOptions

def exporting (o : GenerateOptions) : GenerateOptions := { o with json := true }

def drawing (o : GenerateOptions) : GenerateOptions := { o with json := false }

/-- The options come to settings that a renderer can work with, and the source that they name has
been opened and yields these items. -/
structure Opens (o : GenerateOptions) (d : Desk) (s : Settings) (items : List SourceItem)
    (opened : Desk) : Prop where
  opening : ∃ resolved source, o.settings.runAt d = (.ok s, resolved) ∧
    o.source.runAt resolved = (.ok source, opened) ∧ items = source.items opened.files
  checked : s.checked = .ok ()

end GenerateOptions

variable {o : GenerateOptions} {d opened : Desk} {s : Settings} {items : List SourceItem}
  {launch : Launcher} {tables : List Table} {e : Error}

theorem runAt_runGenerate_exporting (h : o.Opens d s items opened) (launch : Launcher) :
    (runGenerate launch o.exporting).runAt d = (exportSchema o.input items).runAt opened := by
  obtain ⟨⟨resolved, source, hsettings, hsource, rfl⟩, hchecked⟩ := h
  have hsettings' : o.exporting.settings.runAt d = (.ok s, resolved) := hsettings
  have hsource' : o.exporting.source.runAt resolved = (.ok source, opened) := hsource
  rw [runGenerate, DeskJob.runAt_bind_of_ok hsettings', DeskJob.runAt_bind_of_ok hsource', hchecked]
  rfl

theorem runAt_runGenerate_drawing (h : o.Opens d s items opened) (launch : Launcher) :
    (runGenerate launch o.drawing).runAt d =
      closing s o.input
        ((generate mysql (s.produce (Renderer.ofProgram launch s.renderer)) items).runAt
          (opened.log [openingNotice s o.input])) := by
  obtain ⟨⟨resolved, source, hsettings, hsource, rfl⟩, hchecked⟩ := h
  have hsettings' : o.drawing.settings.runAt d = (.ok s, resolved) := hsettings
  have hsource' : o.drawing.source.runAt resolved = (.ok source, opened) := hsource
  rw [runGenerate, DeskJob.runAt_bind_of_ok hsettings', DeskJob.runAt_bind_of_ok hsource', hchecked]
  exact runAt_drawSchema launch s o.input (source.items opened.files) opened

theorem runAt_exporting_of_firstError? (h : o.Opens d s items opened)
    (hfailure : firstError? items = some e) (launch : Launcher) :
    ((runGenerate launch o.exporting).runAt d).1 = .error (.failed e) := by
  rw [runAt_runGenerate_exporting h, runAt_exportSchema, hfailure]

theorem runAt_drawing_of_firstError? (h : o.Opens d s items opened)
    (hfailure : firstError? items = some e) (launch : Launcher) :
    ((runGenerate launch o.drawing).runAt d).1 = .error (.notDrawn o.input e) := by
  rw [runAt_runGenerate_drawing h, runAt_generate_of_firstError? hfailure]
  rfl

theorem runAt_exporting_eq_ok_iff (h : o.Opens d s items opened) (launch : Launcher)
    {text : String} :
    ((runGenerate launch o.exporting).runAt d).1 = .ok text ↔
      ∃ tables, HandsOver mysql items tables ∧ text = exportText tables := by
  simp only [handsOver_iff, runAt_runGenerate_exporting h, runAt_exportSchema]
  cases firstError? items with
  | some e => exact iff_of_false (fun heq => nomatch heq) (fun ⟨_, heq, _⟩ => nomatch heq.1)
  | none =>
      cases (leadingGroups items).filterMap (Table.ofLines? mysql) with
      | nil => exact iff_of_false (fun heq => nomatch heq) (fun ⟨_, heq, _⟩ => heq.2.1 heq.2.2.symm)
      | cons t ts =>
          constructor
          · intro heq
            exact ⟨t :: ts, ⟨rfl, List.cons_ne_nil t ts, rfl⟩, (Except.ok.inj heq).symm⟩
          · rintro ⟨_, ⟨_, _, rfl⟩, rfl⟩
            rfl

theorem tellsTables_iff_handsOver (h : o.Opens d s items opened) {text : String}
    (htext : ((runGenerate launch o.exporting).runAt d).1 = .ok text) :
    TellsTables text tables ↔ HandsOver mysql items tables := by
  obtain ⟨printed, hprinted, rfl⟩ := (runAt_exporting_eq_ok_iff h launch).1 htext
  rw [tellsTables_exportText_iff]
  constructor
  · rintro rfl
    exact hprinted
  · intro htables
    exact (handsOver_iff.1 htables).2.2.symm.trans (handsOver_iff.1 hprinted).2.2

theorem runAt_exporting_eq_noTables_iff (h : o.Opens d s items opened) (launch : Launcher) :
    ((runGenerate launch o.exporting).runAt d).1 = .error (.noTables o.input) ↔
      firstError? items = none ∧ (leadingGroups items).filterMap (Table.ofLines? mysql) = [] := by
  rw [runAt_runGenerate_exporting h, runAt_exportSchema]
  cases firstError? items with
  | some e => exact iff_of_false (fun heq => nomatch heq) (fun heq => nomatch heq.1)
  | none =>
      cases (leadingGroups items).filterMap (Table.ofLines? mysql) with
      | nil => exact iff_of_true rfl ⟨rfl, rfl⟩
      | cons t ts => exact iff_of_false (fun heq => nomatch heq) (fun heq => nomatch heq.2)

theorem fst_closing_eq_notDrawn_iff {s : Settings} {input : String}
    {run : Except Error (List Table) × Desk} :
    (closing s input run).1 = .error (.notDrawn input e) ↔ run.1 = .error e := by
  obtain ⟨result, after⟩ := run
  cases result with
  | ok tables => exact iff_of_false (fun heq => nomatch heq) (fun heq => nomatch heq)
  | error e' => simp only [closing, Except.error.injEq, Failure.notDrawn.injEq, true_and]

theorem runAt_drawing_eq_emptyTableList_iff (h : o.Opens d s items opened) (launch : Launcher) :
    ((runGenerate launch o.drawing).runAt d).1 = .error (.notDrawn o.input .emptyTableList) ↔
      firstError? items = none ∧ (leadingGroups items).filterMap (Table.ofLines? mysql) = [] := by
  rw [runAt_runGenerate_drawing h, fst_closing_eq_notDrawn_iff, runAt_generate]
  cases hfailure : firstError? items with
  | some e =>
      obtain ⟨⟨_, source, _, _, rfl⟩, _⟩ := h
      obtain ⟨path, cause, rfl⟩ :=
        exists_access_of_error_mem_items (mem_of_firstError? hfailure)
      exact iff_of_false (fun heq => nomatch heq) (fun heq => nomatch heq.1)
  | none =>
      cases (leadingGroups items).filterMap (Table.ofLines? mysql) with
      | nil => exact iff_of_true rfl ⟨rfl, rfl⟩
      | cons t ts =>
          have hproduce := s.produce_ne_emptyTableList
            ((opened.log [openingNotice s o.input]).log (groupEvents mysql (leadingGroups items)))
            (List.cons_ne_nil t ts) (Renderer.ofProgram_ne_emptyTableList launch s.renderer)
          refine iff_of_false ?_ (fun heq => nomatch heq.2)
          dsimp only
          rw [handOver_of_ne_nil (List.cons_ne_nil t ts), fst_answer_eq_error_iff]
          exact hproduce

theorem files_runCommand (h : IsReadOnly (runGenerate launch o)) (verbose : Bool)
    (files : Workspace) :
    (runCommand launch { verbose, command := .generate o } files).files = files := by
  obtain ⟨hfiles, _⟩ := h { files }
  rw [DeskJob.runAt] at hfiles
  unfold runCommand
  dsimp only
  split
  next hrun => rwa [hrun] at hfiles
  next hrun => rwa [hrun] at hfiles

theorem output_runCommand_of_ok {verbose : Bool} {files : Workspace} {text : String}
    (h : ((runGenerate launch o).runAt { files }).1 = .ok text) :
    (runCommand launch { verbose, command := .generate o } files).output = text := by
  unfold runCommand
  dsimp only
  split
  next hrun =>
    rw [DeskJob.runAt, hrun] at h
    exact Except.ok.inj h
  next hrun =>
    rw [DeskJob.runAt, hrun] at h
    cases h

theorem output_runCommand_of_exitCode_ne_zero (launch : Launcher) (o : GenerateOptions)
    (verbose : Bool) (files : Workspace)
    (h : (runCommand launch { verbose, command := .generate o } files).exitCode ≠ 0) :
    (runCommand launch { verbose, command := .generate o } files).output = "" := by
  unfold runCommand at h ⊢
  dsimp only at h ⊢
  split
  next hrun =>
    rw [hrun] at h
    exact absurd rfl h
  next => rfl

theorem export_agrees_with_drawing (launch : Launcher) (o : GenerateOptions) (d : Desk) :
    (∀ s items opened, o.Opens d s items opened →
      (∀ text, ((runGenerate launch o.exporting).runAt d).1 = .ok text ↔
        ∃ tables, HandsOver mysql items tables ∧ text = exportText tables) ∧
      (∀ text tables, ((runGenerate launch o.exporting).runAt d).1 = .ok text →
        (TellsTables text tables ↔ HandsOver mysql items tables)) ∧
      ((runGenerate launch o.drawing).runAt d =
        closing s o.input
          ((generate mysql (s.produce (Renderer.ofProgram launch s.renderer)) items).runAt
            (opened.log [openingNotice s o.input]))) ∧
      (∀ e, firstError? items = some e →
        ((runGenerate launch o.exporting).runAt d).1 = .error (.failed e) ∧
          ((runGenerate launch o.drawing).runAt d).1 = .error (.notDrawn o.input e)) ∧
      (((runGenerate launch o.exporting).runAt d).1 = .error (.noTables o.input) ↔
        ((runGenerate launch o.drawing).runAt d).1 =
          .error (.notDrawn o.input .emptyTableList))) ∧
    (∀ launch', runGenerate launch' o.exporting = runGenerate launch o.exporting) ∧
    IsReadOnly (runGenerate launch o.exporting) ∧
    ∀ verbose files,
      (runCommand launch { verbose, command := .generate o.exporting } files).files = files ∧
        (∀ text, ((runGenerate launch o.exporting).runAt { files }).1 = .ok text →
          (runCommand launch { verbose, command := .generate o.exporting } files).output = text) ∧
        ((runCommand launch { verbose, command := .generate o.exporting } files).exitCode ≠ 0 →
          (runCommand launch { verbose, command := .generate o.exporting } files).output = "") := by
  have hreads : IsReadOnly (runGenerate launch o.exporting) := isReadOnly_runGenerate rfl launch
  refine ⟨?_, fun launch' => runGenerate_eq_of_json rfl launch' launch, hreads, ?_⟩
  · intro s items opened h
    refine ⟨fun text => runAt_exporting_eq_ok_iff h launch,
      fun text tables htext => tellsTables_iff_handsOver h htext,
      runAt_runGenerate_drawing h launch, ?_, ?_⟩
    · intro e hfailure
      exact ⟨runAt_exporting_of_firstError? h hfailure launch,
        runAt_drawing_of_firstError? h hfailure launch⟩
    · rw [runAt_exporting_eq_noTables_iff h, runAt_drawing_eq_emptyTableList_iff h]
  · intro verbose files
    exact ⟨files_runCommand hreads verbose files, fun text => output_runCommand_of_ok,
      output_runCommand_of_exitCode_ne_zero launch o.exporting verbose files⟩

theorem runAt_source_of_dump (hdump : o.dump = true) {text : String}
    (hfile : d.files.isFile o.input = true) (hread : d.files.readText o.input = .ok text) :
    o.source.runAt d =
      (.ok (.statements (statements (textLines text))),
        d.log [.splitDump (statements (textLines text)).length]) := by
  rw [GenerateOptions.source, if_pos hdump, DeskJob.runAt_bind_of_ok (DeskJob.runAt_get d),
    if_pos hfile, Work.runAt_ofJob, runAt_ofDump hread, runAt_ofDumpText]
  rfl

theorem runAt_source_of_folder (hdump : o.dump = false) {at_ : Location} {parts : FilePattern}
    (hfolder : d.files.find o.input = .ok (at_, .folder))
    (hpattern : FilePattern.parse (o.pattern.getD defaultPattern) = .ok parts) :
    o.source.runAt d =
      (.ok (.files (listing d.files o.input at_ parts)),
        d.log [.listedFiles o.input (o.pattern.getD defaultPattern)
          (listing d.files o.input at_ parts).length]) := by
  rw [GenerateOptions.source, hdump, if_neg Bool.false_ne_true, Work.runAt_ofJob,
    runAt_ofFolder hfolder hpattern]
  rfl

def visitsDump : Workspace :=
  { entries := [(["visits.sql"], .file (Text.unlines Table.visitLines).toUTF8 false)] }

def visitsOptions : GenerateOptions :=
  { input := "visits.sql", dump := true, output := some "visits.svg" }

def visitsSettings : Settings := { filename := some "visits.svg", format := .svg }

theorem textLines_visits : textLines (Text.unlines Table.visitLines) = Table.visitLines := by
  rw [textLines, Text.lines_toList_unlines (by decide +kernel)]
  decide +kernel

theorem visitsOptions_opens :
    visitsOptions.Opens { files := visitsDump } visitsSettings [.ok Table.visitLines]
      { files := visitsDump, events := [.splitDump 1] } := by
  have hread : visitsDump.readText "visits.sql" = .ok (Text.unlines Table.visitLines) :=
    Workspace.readText_eq_ok_iff.2 ⟨["visits.sql"], false, rfl⟩
  have hgroups : statements Table.visitLines = [Table.visitLines] := by decide +kernel
  have hsource := runAt_source_of_dump (o := visitsOptions) (d := { files := visitsDump }) rfl
    (by decide +kernel) hread
  rw [textLines_visits, hgroups] at hsource
  exact ⟨⟨_, _, rfl, hsource, rfl⟩, rfl⟩

def unreadableFolder : Workspace :=
  { entries := [(["sql"], .folder), (["sql", "a.sql"], .file ⟨#[0xFF]⟩ false)] }

def folderOptions : GenerateOptions := { input := "sql" }

theorem folderOptions_opens :
    folderOptions.Opens { files := unreadableFolder } {} [.error (.access "sql/a.sql" .notText)]
      { files := unreadableFolder, events := [.listedFiles "sql" "*.sql" 1] } := by
  have hlisting : listing unreadableFolder "sql" ["sql"] defaultParts = ["sql/a.sql"] := by
    decide +kernel
  have hread : readLines unreadableFolder "sql/a.sql" = .error (.access "sql/a.sql" .notText) := by
    decide +kernel
  have hfolder : unreadableFolder.find "sql" = .ok (["sql"], .folder) := rfl
  have hsource := runAt_source_of_folder (o := folderOptions) (d := { files := unreadableFolder })
    rfl hfolder parse_defaultPattern
  rw [show folderOptions.input = "sql" from rfl, hlisting] at hsource
  refine ⟨⟨_, _, rfl, hsource, ?_⟩, rfl⟩
  rw [Source.items, List.map_singleton]
  exact congrArg ([·]) hread.symm

def missing : Launcher := fun _ _ => .notStarted .notFound

theorem visits_export_agrees_with_drawing :
    visitsOptions.Opens { files := visitsDump } visitsSettings [.ok Table.visitLines]
        { files := visitsDump, events := [.splitDump 1] } ∧
      HandsOver mysql [.ok Table.visitLines] [Table.visits] ∧
      ((runGenerate missing visitsOptions.exporting).runAt { files := visitsDump }).1 =
        .ok (exportText [Table.visits]) ∧
      TellsTables (exportText [Table.visits]) [Table.visits] ∧
      (runCommand missing { verbose := false, command := .generate visitsOptions.exporting }
        visitsDump).output = exportText [Table.visits] ∧
      ((runGenerate missing folderOptions.exporting).runAt { files := unreadableFolder }).1 =
        .error (.failed (.access "sql/a.sql" .notText)) ∧
      ((runGenerate missing folderOptions.drawing).runAt { files := unreadableFolder }).1 =
        .error (.notDrawn "sql" (.access "sql/a.sql" .notText)) ∧
      (runCommand missing { verbose := false, command := .generate visitsOptions.exporting }
        {}).exitCode = 1 ∧
      (runCommand missing { verbose := false, command := .generate visitsOptions.exporting }
        {}).output = "" := by
  have hread : Table.ofLines? mysql Table.visitLines = some Table.visits := by decide +kernel
  have hhands : HandsOver mysql [.ok Table.visitLines] [Table.visits] :=
    handsOver_iff.2 ⟨rfl, List.cons_ne_nil _ _, by simp [hread]⟩
  have hexit : (runCommand missing
      { verbose := false, command := .generate visitsOptions.exporting } {}).exitCode = 1 := by
    decide +kernel
  obtain ⟨hagrees, _, _, hcommand⟩ :=
    export_agrees_with_drawing missing visitsOptions { files := visitsDump }
  obtain ⟨hprints, htells, _⟩ := hagrees _ _ _ visitsOptions_opens
  have htext := (hprints _).2 ⟨_, hhands, rfl⟩
  obtain ⟨hagrees', _⟩ :=
    export_agrees_with_drawing missing folderOptions { files := unreadableFolder }
  obtain ⟨_, _, _, hfails, _⟩ := hagrees' _ _ _ folderOptions_opens
  obtain ⟨hexport, hdraw⟩ := hfails _ rfl
  refine ⟨visitsOptions_opens, hhands, htext, (htells _ _ htext).2 hhands,
    (hcommand false visitsDump).2.1 _ htext, hexport, hdraw, hexit, ?_⟩
  exact (hcommand false {}).2.2 (by rw [hexit]; decide)

end CommandLine

end SchemaDiagram

import SchemaDiagram.Proofs.CommandLine.Agreement
import SchemaDiagram.Proofs.Diagram.ArtifactPath

namespace SchemaDiagram

open Text SchemaDiagram.Path

namespace ImageFormat

variable {f : ImageFormat} {name ext : String}

def names : ImageFormat → List String
  | .png => ["png", "raster"]
  | .svg => ["svg", "vector"]

theorem ofExtension?_eq_some_iff : ofExtension? ext = some f ↔ lowerCase ext = f.extension := by
  unfold ofExtension?
  split
  next hpng =>
    rw [hpng]
    cases f <;> decide
  next hpng =>
    split
    next hsvg =>
      rw [hsvg]
      cases f <;> decide
    next hsvg => cases f <;> simp [extension, hpng, hsvg]

theorem ofName?_eq_some_iff : ofName? name = some f ↔ lowerCase name ∈ f.names := by
  unfold ofName?
  split
  next hraster =>
    rw [hraster]
    cases f <;> decide
  next hraster =>
    split
    next hvector =>
      rw [hvector]
      cases f <;> decide
    next hvector =>
      rw [ofExtension?_eq_some_iff]
      cases f <;> simp [extension, names, hraster, hvector]

theorem ofName?_eq_none_iff :
    ofName? name = none ↔ ∀ f : ImageFormat, lowerCase name ∉ f.names := by
  rw [Option.eq_none_iff_forall_ne_some]
  exact forall_congr' fun f => not_congr ofName?_eq_some_iff

end ImageFormat

theorem Settings.checked_eq_ok_iff {s : Settings} :
    s.checked = .ok () ↔ s.limitSize ≠ 0 ∧ onlyBlanks s.renderer.toList = false := by
  rw [← validate_eq_ok_iff, checked]
  cases s.validate with
  | ok u => exact iff_of_true rfl rfl
  | error cause => exact iff_of_false (fun h => nomatch h) (fun h => nomatch h)

theorem runAt_load {d : Desk} {path text : String} {s : Settings}
    (hread : d.files.readText path = .ok text) (hyaml : Settings.ofYaml text = .ok s) :
    (Settings.load path).runAt d = (.ok s, d) := by
  have htext : (Job.readText path).runAt d = (.ok text, d) := by
    rw [Job.runAt_readText, hread]
    rfl
  rw [Settings.load, DeskJob.runAt_bind_of_ok htext, hyaml]
  rfl

namespace CommandLine

namespace GenerateOptions

variable {o : GenerateOptions} {d opened : Desk} {base s : Settings} {launch : Launcher}
  {name p ext : String} {folder stem : List Char}

inductive HasBase (o : GenerateOptions) (files : Workspace) : Settings → Prop
  | defaults (hconfig : o.config = none) : HasBase o files {}
  | file {path text : String} {s : Settings} (hconfig : o.config = some path)
      (hread : files.readText path = .ok text) (hyaml : Settings.ofYaml text = .ok s) :
      HasBase o files s

theorem runAt_settings (h : o.HasBase d.files base) : o.settings.runAt d = (o.merge base, d) := by
  cases h with
  | defaults hconfig =>
      have hdefaults : DeskJob.runAt (pure {} : Work Settings) d = (.ok {}, d) := rfl
      rw [settings, hconfig]
      dsimp only
      rw [DeskJob.runAt_bind_of_ok hdefaults]
      cases o.merge {} <;> rfl
  | @file path text _ hconfig hread hyaml =>
      have hload : (Work.ofJob .failed (Settings.load path)).runAt d = (.ok base, d) := by
        rw [Work.runAt_ofJob, runAt_load hread hyaml]
        rfl
      rw [settings, hconfig]
      dsimp only
      rw [DeskJob.runAt_bind_of_ok hload]
      cases o.merge base <;> rfl

structure Governs (o : GenerateOptions) (base s : Settings) : Prop where
  title : s.title = o.title.getD base.title
  filename : s.filename = o.output.or base.filename
  limitSize : s.limitSize = o.limitSize.getD base.limitSize
  renderer : s.renderer = o.renderer.getD base.renderer
  keepSource : s.keepSource = (base.keepSource || o.keepSource)
  showOrphans : s.showOrphans = (base.showOrphans || o.showOrphans)
  namedFormat : ∀ name, o.format = some name → lowerCase name ∈ s.format.names
  outputFormat : o.format = none → ∀ p ext, o.output = some p → extension? p = some ext →
    ∀ f : ImageFormat, lowerCase ext = f.extension → s.format = f
  baseFormat : o.format = none →
    (∀ p ext, o.output = some p → extension? p = some ext →
      ∀ f : ImageFormat, lowerCase ext ≠ f.extension) → s.format = base.format

theorem merge_of_unknown (hformat : o.format = some name)
    (hname : ∀ f : ImageFormat, lowerCase name ∉ f.names) (base : Settings) :
    o.merge base = .error (.unknownFormat name) := by
  rw [merge, format?, hformat]
  dsimp only
  rw [ImageFormat.ofName?_eq_none_iff.2 hname]
  rfl

theorem exists_format_of_known
    (h : ∀ name, o.format = some name → ∃ f : ImageFormat, lowerCase name ∈ f.names) :
    ∃ format, o.format? = .ok format := by
  unfold format?
  split
  next name hname =>
    obtain ⟨f, hf⟩ := h name hname
    rw [ImageFormat.ofName?_eq_some_iff.2 hf]
    exact ⟨_, rfl⟩
  next => exact ⟨_, rfl⟩

theorem governs_of_merge (h : o.merge base = .ok s) : o.Governs base s := by
  obtain ⟨format, hformat, h⟩ := bind_eq_ok_iff.1 h
  obtain rfl := (Except.ok.inj h).symm
  refine ⟨rfl, rfl, rfl, rfl, rfl, rfl, ?_, ?_, ?_⟩
  · intro name hname
    rw [format?, hname] at hformat
    dsimp only at hformat
    split at hformat
    next f hf =>
      obtain rfl := (Except.ok.inj hformat).symm
      exact ImageFormat.ofName?_eq_some_iff.1 hf
    next => cases hformat
  · intro hnone p ext hp hext f hf
    rw [format?, hnone, hp, Option.bind_some, hext, Option.bind_some,
      ImageFormat.ofExtension?_eq_some_iff.2 hf] at hformat
    obtain rfl := (Except.ok.inj hformat).symm
    rfl
  · intro hnone hother
    rw [format?, hnone] at hformat
    obtain rfl := (Except.ok.inj hformat).symm
    suffices hformat : (o.output.bind extension?).bind ImageFormat.ofExtension? = none by
      rw [hformat, Option.getD_none]
    rw [Option.bind_eq_none_iff]
    intro ext hext
    obtain ⟨p, hp, hext⟩ := Option.bind_eq_some_iff.1 hext
    rw [Option.eq_none_iff_forall_ne_some]
    exact fun f hf => hother p ext hp hext f (ImageFormat.ofExtension?_eq_some_iff.1 hf)

theorem runAt_runGenerate_of_settings_error {failure : Failure}
    (h : o.settings.runAt d = (.error failure, d)) (launch : Launcher) :
    (runGenerate launch o).runAt d = (.error failure, d) :=
  DeskJob.runAt_bind_of_error h _

theorem runAt_runGenerate_of_checked_error {source : Source} {e : Error}
    (hsettings : o.settings.runAt d = (.ok s, d))
    (hsource : o.source.runAt d = (.ok source, opened)) (hchecked : s.checked = .error e)
    (launch : Launcher) : (runGenerate launch o).runAt d = (.error (.failed e), opened) := by
  rw [runGenerate, DeskJob.runAt_bind_of_ok hsettings, DeskJob.runAt_bind_of_ok hsource, hchecked]
  exact DeskJob.runAt_bind_of_error rfl _

structure HasImage (o : GenerateOptions) (p : String) (folder stem : List Char) (ext : String) :
    Prop where
  output : o.output = some p
  text : p.toList = folder ++ (stem ++ '.' :: ext.toList)
  folder : EndsFolder folder
  stem : stem ≠ [] ∧ '/' ∉ stem
  ext : lowerCase ext ∈ ["png", "svg"]

theorem HasImage.isArtifactExtension (h : o.HasImage p folder stem ext) :
    isArtifactExtension ext = true := by
  obtain hpng | hsvg : lowerCase ext = "png" ∨ lowerCase ext = "svg" := by simpa using h.ext
  · exact isArtifactExtension_iff.2 (hpng ▸ by decide)
  · exact isArtifactExtension_iff.2 (hsvg ▸ by decide)

theorem HasImage.eq_path (h : o.HasImage p folder stem ext) :
    p = String.ofList (folder ++ stem) ++ "." ++ ext := by
  rw [← String.toList_inj, h.text]
  simp

theorem HasImage.extension? (h : o.HasImage p folder stem ext) : extension? p = some ext := by
  have hspells := spells_artifact h.folder h.stem h.isArtifactExtension IsTrailing.nil
  rw [List.append_nil, ← h.text] at hspells
  rw [extension?_of_spells hspells, String.ofList_toList]

theorem HasImage.format (h : o.HasImage p folder stem ext) (hs : o.Governs base s)
    (hnone : o.format = none) : s.format.extension = lowerCase ext := by
  obtain hpng | hsvg : lowerCase ext = "png" ∨ lowerCase ext = "svg" := by simpa using h.ext
  · rw [hpng, hs.outputFormat hnone p ext h.output h.extension? .png hpng]
    rfl
  · rw [hsvg, hs.outputFormat hnone p ext h.output h.extension? .svg hsvg]
    rfl

theorem HasImage.artifactPath (h : o.HasImage p folder stem ext) (e : String) :
    artifactPath p e =
      if stem = ['.'] then String.ofList folder ++ ".."
      else String.ofList (folder ++ stem) ++ "." ++ e := by
  rw [h.eq_path, artifactPath_artifact h.folder h.stem h.isArtifactExtension]

theorem HasImage.filename (h : o.HasImage p folder stem ext) (hs : o.Governs base s) :
    s.filename = some p := by
  rw [hs.filename, h.output, Option.some_or]

theorem options_take_precedence (launch : Launcher) (o : GenerateOptions) (d : Desk)
    (base : Settings) (hbase : o.HasBase d.files base) :
    (∀ name, o.format = some name → (∀ f : ImageFormat, lowerCase name ∉ f.names) →
        o.settings.runAt d = (.error (.unknownFormat name), d) ∧
          (runGenerate launch o).runAt d = (.error (.unknownFormat name), d)) ∧
      ((∀ name, o.format = some name → ∃ f : ImageFormat, lowerCase name ∈ f.names) →
        ∃ s, o.settings.runAt d = (.ok s, d) ∧ o.Governs base s ∧
          (s.checked = .ok () ↔ o.limitSize.getD base.limitSize ≠ 0 ∧
            onlyBlanks (o.renderer.getD base.renderer).toList = false) ∧
          (∀ e source opened, s.checked = .error e → o.source.runAt d = (.ok source, opened) →
            (runGenerate launch o).runAt d = (.error (.failed e), opened)) ∧
          ∀ p folder stem ext, o.HasImage p folder stem ext →
            (o.format = none → s.format.extension = lowerCase ext) ∧
            (stem ≠ ['.'] →
              s.imagePath? =
                  some (String.ofList (folder ++ stem) ++ "." ++ s.format.extension) ∧
                s.sourcePath? = some (String.ofList (folder ++ stem) ++ "." ++ "puml") ∧
                (o.format = none → lowerCase ext = ext → s.imagePath? = some p)) ∧
            (stem = ['.'] → s.imagePath? = some (String.ofList folder ++ ".."))) := by
  refine ⟨?_, ?_⟩
  · intro name hformat hname
    have hsettings : o.settings.runAt d = (.error (.unknownFormat name), d) := by
      rw [runAt_settings hbase, merge_of_unknown hformat hname]
    exact ⟨hsettings, runAt_runGenerate_of_settings_error hsettings launch⟩
  · intro hknown
    obtain ⟨format, hformat⟩ := exists_format_of_known hknown
    obtain ⟨s, hmerge⟩ : ∃ s, o.merge base = .ok s := ⟨_, by rw [merge, hformat]; rfl⟩
    have hsettings : o.settings.runAt d = (.ok s, d) := by rw [runAt_settings hbase, hmerge]
    -- From here on the settings are known only by what governs them.
    have hs := governs_of_merge hmerge
    refine ⟨s, hsettings, hs, ?_, ?_, ?_⟩
    · rw [Settings.checked_eq_ok_iff, hs.limitSize, hs.renderer]
    · intro e source opened hchecked hsource
      exact runAt_runGenerate_of_checked_error hsettings hsource hchecked launch
    · intro p folder stem ext himage
      have hpath : s.imagePath? = some (artifactPath p s.format.extension) := by
        rw [Settings.imagePath?, himage.filename hs, Option.map_some]
      have hsource : s.sourcePath? = some (artifactPath p sourceExtension) := by
        rw [Settings.sourcePath?, himage.filename hs, Option.map_some]
      rw [himage.artifactPath] at hpath hsource
      refine ⟨himage.format hs, ?_, ?_⟩
      · intro hstem
        rw [if_neg hstem] at hpath hsource
        refine ⟨hpath, hsource, ?_⟩
        intro hnone hext
        rw [hpath, himage.format hs hnone, hext, ← himage.eq_path]
      · intro hstem
        rw [hpath, if_pos hstem]

def pimFolder : Workspace where
  entries := [
    (["erd.yml"], .file "title: pim\nlimit_size: 0\nshow_orphan_foreign_keys: true\n".toUTF8 false),
    (["sql"], .folder),
    (["sql", "a.sql"], .file ByteArray.empty false)]

def pimOptions : GenerateOptions where
  input := "sql"
  output := some "out/.pim.svg"
  limitSize := some 800
  renderer := some " "
  config := some "erd.yml"

def pimBase : Settings := { title := "pim", limitSize := 0, showOrphans := true }

theorem hasBase_pimFolder (h : o.config = some "erd.yml") : o.HasBase pimFolder pimBase := by
  have hread : pimFolder.readText "erd.yml" =
      .ok "title: pim\nlimit_size: 0\nshow_orphan_foreign_keys: true\n" :=
    Workspace.readText_eq_ok_iff.2 ⟨["erd.yml"], false, rfl⟩
  have hyaml : Settings.ofYaml "title: pim\nlimit_size: 0\nshow_orphan_foreign_keys: true\n" =
      .ok pimBase := by
    decide +kernel
  exact .file h hread hyaml

def pdfOptions : GenerateOptions := { pimOptions with format := some "pdf" }

theorem pimOptions_source :
    pimOptions.source.runAt { files := pimFolder } =
      (.ok (.files ["sql/a.sql"]),
        { files := pimFolder, events := [.listedFiles "sql" "*.sql" 1] }) := by
  have hlisting : Source.listing pimFolder "sql" ["sql"] Source.defaultParts = ["sql/a.sql"] := by
    decide +kernel
  have hfolder : pimFolder.find "sql" = .ok (["sql"], .folder) := rfl
  have hsource := runAt_source_of_folder (o := pimOptions) (d := { files := pimFolder }) rfl
    hfolder Source.parse_defaultPattern
  rw [show pimOptions.input = "sql" from rfl, hlisting] at hsource
  exact hsource

theorem pimOptions_hasImage :
    pimOptions.HasImage "out/.pim.svg" "out/".toList ".pim".toList "svg" where
  output := rfl
  text := by decide
  folder := endsFolder_append_slash "out".toList
  stem := by decide
  ext := by decide +kernel

theorem pimOptions_take_precedence :
    pdfOptions.settings.runAt { files := pimFolder } =
        (.error (.unknownFormat "pdf"), { files := pimFolder }) ∧
      pimOptions.HasBase pimFolder pimBase ∧
      ∃ s : Settings, pimOptions.settings.runAt { files := pimFolder } =
          (.ok s, { files := pimFolder }) ∧
        s.title = "pim" ∧ s.showOrphans = true ∧ s.limitSize = 800 ∧
        s.checked = .error (.invalidSetting .blankRenderer) ∧
        (runGenerate missing pimOptions).runAt { files := pimFolder } =
          (.error (.failed (.invalidSetting .blankRenderer)),
            { files := pimFolder, events := [.listedFiles "sql" "*.sql" 1] }) ∧
        s.imagePath? = some "out/.pim.svg" := by
  have hpdf : ∀ f : ImageFormat, lowerCase "pdf" ∉ f.names := by
    intro f
    cases f <;> decide +kernel
  have hbase : pimOptions.HasBase pimFolder pimBase := hasBase_pimFolder rfl
  have hbase' : pdfOptions.HasBase pimFolder pimBase := hasBase_pimFolder rfl
  obtain ⟨hunknown, _⟩ :=
    options_take_precedence missing pdfOptions { files := pimFolder } pimBase hbase'
  obtain ⟨_, hknown⟩ :=
    options_take_precedence missing pimOptions { files := pimFolder } pimBase hbase
  obtain ⟨s, hsettings, hs, _, hrefused, himage⟩ := hknown (fun _ h => nomatch h)
  obtain ⟨_, hpaths, _⟩ := himage _ _ _ _ pimOptions_hasImage
  obtain ⟨_, _, hpath⟩ := hpaths (by decide)
  have hchecked : s.checked = .error (.invalidSetting .blankRenderer) := by
    have hlimit : s.limitSize = 800 := hs.limitSize
    have hrenderer : s.renderer = " " := hs.renderer
    rw [Settings.checked, Settings.validate, hlimit, hrenderer]
    decide +kernel
  have hrun := hrefused _ _ _ hchecked pimOptions_source
  exact ⟨(hunknown "pdf" rfl hpdf).1, hbase, s, hsettings, hs.title, hs.showOrphans,
    hs.limitSize, hchecked, hrun, hpath rfl (by decide +kernel)⟩

theorem dotNamed_output_misses_image :
    HasImage { input := "s", output := some "..png" } "..png" [] ['.'] "png" ∧
      DeskJob.runAt (settings { input := "s", output := some "..png" }) {} =
        (.ok { filename := some "..png" }, {}) ∧
      Settings.imagePath? { filename := some "..png" } = some ".." ∧ ".." ≠ "..png" := by
  refine ⟨?_, ?_, ?_, ?_⟩
  · exact ⟨rfl, by decide, endsFolder_nil, by decide, by decide +kernel⟩
  · rfl
  · decide +kernel
  · decide

end GenerateOptions

end CommandLine

end SchemaDiagram

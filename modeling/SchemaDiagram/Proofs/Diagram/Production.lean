import SchemaDiagram.Harvest
import SchemaDiagram.Proofs.Files.Writing
import SchemaDiagram.Proofs.Job

namespace SchemaDiagram

theorem handOver_nil (produce : List Table → Job Unit) :
    handOver produce [] = throw .emptyTableList := rfl

theorem handOver_of_ne_nil {tables : List Table} (h : tables ≠ [])
    (produce : List Table → Job Unit) : handOver produce tables = produce tables := by
  cases tables with
  | nil => exact absurd rfl h
  | cons t ts => rfl

namespace Settings

variable {s : Settings} {render : Renderer} {tables : List Table} {d : Desk} {e : Error}
  {source image : String}

theorem artifacts_nil (s : Settings) : s.artifacts [] = .error .emptyTableList := rfl

theorem artifacts_of_filename_eq_none (htables : tables ≠ []) (h : s.filename = none) :
    s.artifacts tables =
      .error (.missingFilename (if s.keepSource then sourceExtension else s.format.extension)) := by
  have hsource : s.sourcePath? = none := by rw [sourcePath?, h, Option.map_none]
  have himage : s.imagePath? = none := by rw [imagePath?, h, Option.map_none]
  rw [artifacts, if_neg (by simpa using htables), hsource, himage]
  cases s.keepSource <;> rfl

theorem artifacts_of_paths (htables : tables ≠ []) (hsource : s.sourcePath? = some source)
    (himage : s.imagePath? = some image) :
    s.artifacts tables = .ok (if s.keepSource then some source else none, image) := by
  rw [artifacts, if_neg (by simpa using htables), hsource, himage]
  cases s.keepSource <;> rfl

def request (s : Settings) (tables : List Table) (image : String) : RenderRequest where
  source := s.describe tables
  format := s.format
  limitSize := s.limitSize
  output := image

def afterRendering (tables : List Table) (image : String) :
    Except Error Unit × Desk → Except Error Unit × Desk
  | (.ok (), d) => (.ok (), d.log [.renderedDiagram image tables.length])
  | (.error e, d) => (.error e, d)

theorem runAt_render (s : Settings) (render : Renderer) (tables : List Table) (image : String)
    (d : Desk) :
    DeskJob.runAt (do
        render (s.request tables image)
        Job.report [.renderedDiagram image tables.length]) d =
      afterRendering tables image ((render (s.request tables image)).runAt d) := by
  rw [DeskJob.runAt_bind]
  rcases (render (s.request tables image)).runAt d with ⟨result, d'⟩
  cases result <;> rfl

theorem runAt_produce_of_error (h : s.artifacts tables = .error e) :
    (s.produce render tables).runAt d = (.error e, d) := by
  rw [produce, h]
  exact DeskJob.runAt_bind_of_error (Job.runAt_ofExcept _ d) _

theorem runAt_produce_of_none (h : s.artifacts tables = .ok (none, image)) :
    (s.produce render tables).runAt d =
      afterRendering tables image ((render (s.request tables image)).runAt
        ((d.log (s.omissions tables)).log [.describedDiagram (s.describe tables)])) := by
  rw [produce, h, ← runAt_render]
  rfl

theorem runAt_produce_of_some (h : s.artifacts tables = .ok (some source, image)) :
    (s.produce render tables).runAt d =
      match d.files.write source (s.describe tables).toUTF8 with
      | .error cause => (.error (.access source cause), d.log (s.omissions tables))
      | .ok files =>
          afterRendering tables image ((render (s.request tables image)).runAt
            ({ d.log (s.omissions tables) with files }.log [.wroteSource source])) := by
  rw [produce, h, DeskJob.runAt_bind_of_ok (Job.runAt_ofExcept _ d)]
  dsimp only
  rw [DeskJob.runAt_bind_of_ok (Job.runAt_report _ d), DeskJob.runAt_bind, Job.runAt_writeFile,
    Desk.files_log, describe]
  cases d.files.write source (s.draft tables).text.toUTF8 with
  | error cause => rfl
  | ok files => exact runAt_render s render tables image _

theorem exists_paths {filename : String} (h : s.filename = some filename) :
    ∃ source image, s.sourcePath? = some source ∧ s.imagePath? = some image :=
  ⟨_, _, by rw [sourcePath?, h, Option.map_some], by rw [imagePath?, h, Option.map_some]⟩

theorem fst_afterRendering (tables : List Table) (image : String)
    (run : Except Error Unit × Desk) : (afterRendering tables image run).1 = run.1 := by
  obtain ⟨result, after⟩ := run
  cases result <;> rfl

theorem produce_ne_emptyTableList (s : Settings) (d : Desk) (htables : tables ≠ [])
    (hrender : ∀ r d, ((render r).runAt d).1 ≠ .error .emptyTableList) :
    ((s.produce render tables).runAt d).1 ≠ .error .emptyTableList := by
  cases hfilename : s.filename with
  | none =>
      rw [runAt_produce_of_error (artifacts_of_filename_eq_none htables hfilename)]
      exact fun h => nomatch h
  | some filename =>
      obtain ⟨source, image, hsource, himage⟩ := exists_paths hfilename
      have hpaths := artifacts_of_paths htables hsource himage
      cases hkeep : s.keepSource with
      | false =>
          rw [hkeep] at hpaths
          rw [runAt_produce_of_none hpaths, fst_afterRendering]
          exact hrender _ _
      | true =>
          rw [hkeep] at hpaths
          rw [runAt_produce_of_some hpaths]
          split
          next => exact fun h => nomatch h
          next =>
            rw [fst_afterRendering]
            exact hrender _ _

-- The desk that the renderer is given holds for every renderer, so it is asked once where it stands
-- in the answer, and never where it does not.
theorem produce_follows_protocol (s : Settings) (render : Renderer) (tables : List Table)
    (d : Desk) :
    (tables = [] → (s.produce render tables).runAt d = (.error .emptyTableList, d)) ∧
      (tables ≠ [] → s.filename = none → (s.produce render tables).runAt d =
        (.error (.missingFilename (if s.keepSource then "puml" else s.format.extension)), d)) ∧
      (∀ filename, tables ≠ [] → s.filename = some filename →
        ∃ source image, s.sourcePath? = some source ∧ s.imagePath? = some image ∧
          (s.keepSource = false → (s.produce render tables).runAt d =
            afterRendering tables image ((render (s.request tables image)).runAt
              ((d.log (s.omissions tables)).log [.describedDiagram (s.describe tables)]))) ∧
          (s.keepSource = true → ∀ cause,
            d.files.write source (s.describe tables).toUTF8 = .error cause →
            (s.produce render tables).runAt d =
              (.error (.access source cause), d.log (s.omissions tables))) ∧
          (s.keepSource = true → ∀ files,
            d.files.write source (s.describe tables).toUTF8 = .ok files →
            d.files.Rewrites files source (s.describe tables).toUTF8 ∧
              (s.produce render tables).runAt d =
                afterRendering tables image ((render (s.request tables image)).runAt
                  ({ d.log (s.omissions tables) with files }.log [.wroteSource source])))) ∧
      handOver (s.produce render) tables = s.produce render tables := by
  refine ⟨?_, ?_, ?_, ?_⟩
  · rintro rfl
    exact runAt_produce_of_error (artifacts_nil s)
  · intro htables hfilename
    exact runAt_produce_of_error (artifacts_of_filename_eq_none htables hfilename)
  · intro filename htables hfilename
    obtain ⟨source, image, hsource, himage⟩ := exists_paths hfilename
    have hpaths := artifacts_of_paths htables hsource himage
    refine ⟨source, image, hsource, himage, ?_, ?_, ?_⟩
    · intro hkeep
      rw [hkeep] at hpaths
      exact runAt_produce_of_none hpaths
    · intro hkeep cause hwrite
      rw [hkeep] at hpaths
      rw [runAt_produce_of_some hpaths, hwrite]
    · intro hkeep files hwrite
      rw [hkeep] at hpaths
      rw [runAt_produce_of_some hpaths, hwrite]
      exact ⟨Workspace.rewrites_of_write hwrite, rfl⟩
  · cases tables with
    | nil => rw [handOver_nil, produce, artifacts_nil]; rfl
    | cons t ts => exact handOver_of_ne_nil (List.cons_ne_nil t ts) (s.produce render)

def keepingSettings : Settings := { filename := some "erd", keepSource := true }

def sourceOnly (s : Settings) (tables : List Table) : Workspace :=
  { entries := [(["erd.puml"], .file (s.describe tables).toUTF8 false)] }

theorem produce_keepingSettings_follows_protocol :
    (keepingSettings.produce Renderer.idle [{ name := "a" }]).runAt {} =
        (.ok (), {
          files := sourceOnly keepingSettings [{ name := "a" }]
          events := [
            .wroteSource "erd.puml",
            .rendering "" (keepingSettings.request [{ name := "a" }] "erd.png"),
            .renderedDiagram "erd.png" 1] }) ∧
      Workspace.Rewrites {} (sourceOnly keepingSettings [{ name := "a" }]) "erd.puml"
        (keepingSettings.describe [{ name := "a" }]).toUTF8 := by
  obtain ⟨_, _, hpaths, _⟩ := produce_follows_protocol keepingSettings Renderer.idle
    [{ name := "a" }] {}
  obtain ⟨source, image, hsource, himage, _, _, hkept⟩ := hpaths "erd" (List.cons_ne_nil _ _) rfl
  obtain rfl : source = "erd.puml" := (Option.some.inj hsource).symm
  obtain rfl : image = "erd.png" := (Option.some.inj himage).symm
  obtain ⟨hrewrites, hrun⟩ := hkept rfl (sourceOnly keepingSettings [{ name := "a" }]) rfl
  exact ⟨hrun, hrewrites⟩

end Settings

end SchemaDiagram

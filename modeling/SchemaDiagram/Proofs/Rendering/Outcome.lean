import SchemaDiagram.Proofs.Files.Writing
import SchemaDiagram.Proofs.Job
import SchemaDiagram.Rendering.Renderer

namespace SchemaDiagram

theorem ExitStatus.isSuccess_iff {status : ExitStatus} :
    status.isSuccess = true ↔ status = .code 0 := by
  cases status <;> simp [isSuccess]

namespace Renderer

def Fed (feedFailure : Option AccessFailure) : Prop :=
  feedFailure = none ∨ feedFailure = some .brokenPipe

theorem fed_iff {feedFailure : Option AccessFailure} :
    Fed feedFailure ↔ feedFailure.filter (· ≠ .brokenPipe) = none := by
  cases feedFailure <;> simp [Fed]

variable {program : String} {status : ExitStatus} {output : ByteArray}
  {feedFailure : Option AccessFailure}

theorem image_of_fed (h : Fed feedFailure) (program : String) (status : ExitStatus)
    (output : ByteArray) :
    image program (.ended status output feedFailure) =
      if status.isSuccess then .ok output else .error (.renderFailed program status) := by
  rw [image, fed_iff.1 h]

theorem image_of_not_fed {cause : AccessFailure} (h : cause ≠ .brokenPipe) (program : String)
    (status : ExitStatus) (output : ByteArray) :
    image program (.ended status output (some cause)) = .error (.access program cause) := by
  have hfilter : (some cause).filter (· ≠ .brokenPipe) = some cause := by simp [h]
  rw [image, hfilter]

theorem image_notStarted {cause : AccessFailure} (h : cause ≠ .notFound) (program : String) :
    image program (.notStarted cause) = .error (.access program cause) := by
  unfold image
  split <;> simp_all

theorem image_eq_ok_iff {child : ChildOutcome} :
    image program child = .ok output ↔
      ∃ feedFailure, child = .ended (.code 0) output feedFailure ∧ Fed feedFailure := by
  constructor
  · intro h
    unfold image at h
    split at h
    next => cases h
    next => cases h
    next status printed feedFailure =>
      split at h
      next => cases h
      next hfed =>
        split at h
        next hstatus =>
          cases h
          exact ⟨feedFailure, by rw [ExitStatus.isSuccess_iff.1 hstatus], fed_iff.2 hfed⟩
        next => cases h
  · rintro ⟨feedFailure, rfl, hfed⟩
    rw [image_of_fed hfed]
    rfl

theorem runAt_ofProgram (launch : Launcher) (program : String) (r : RenderRequest) (d : Desk) :
    (ofProgram launch program r).runAt d =
      match image program (launch d.files (invocation program r)) with
      | .error e => (.error e, d.log [.rendering program r])
      | .ok output => (Job.writeFile r.output output).runAt (d.log [.rendering program r]) := by
  rw [ofProgram, DeskJob.runAt_bind_of_ok (Job.runAt_report _ d),
    DeskJob.runAt_bind_of_ok (Job.runAt_files _), DeskJob.runAt_bind, Job.runAt_ofExcept,
    Desk.files_log]
  cases image program (launch d.files (invocation program r)) <;> rfl

section Run

variable {launch : Launcher} {r : RenderRequest} {d after : Desk} {child : ChildOutcome}
  {result : Except Error Unit}

theorem runAt_ofProgram_of_error {e : Error}
    (hchild : launch d.files (invocation program r) = child) (h : image program child = .error e) :
    (ofProgram launch program r).runAt d = (.error e, d.log [.rendering program r]) := by
  rw [runAt_ofProgram, hchild, h]

theorem runAt_ofProgram_of_ok (hchild : launch d.files (invocation program r) = child)
    (h : image program child = .ok output) :
    (ofProgram launch program r).runAt d =
      match d.files.write r.output output with
      | .ok files => (.ok (), { d.log [.rendering program r] with files })
      | .error cause => (.error (.access r.output cause), d.log [.rendering program r]) := by
  rw [runAt_ofProgram, hchild, h]
  exact Job.runAt_writeFile r.output output (d.log [.rendering program r])

theorem ofProgram_eq_ok_iff (hchild : launch d.files (invocation program r) = child)
    (hrun : (ofProgram launch program r).runAt d = (result, after)) :
    result = .ok () ↔ ∃ output feedFailure, child = .ended (.code 0) output feedFailure ∧
      Fed feedFailure ∧ d.files.write r.output output = .ok after.files := by
  constructor
  · rintro rfl
    cases himage : image program child with
    | error e =>
        rw [runAt_ofProgram_of_error hchild himage] at hrun
        cases hrun
    | ok output =>
        obtain ⟨feedFailure, hended, hfed⟩ := image_eq_ok_iff.1 himage
        refine ⟨output, feedFailure, hended, hfed, ?_⟩
        rw [runAt_ofProgram_of_ok hchild himage] at hrun
        split at hrun
        next files hwrite =>
          cases hrun
          exact hwrite
        next => cases hrun
  · rintro ⟨output, feedFailure, hended, hfed, hwrite⟩
    have himage : image program child = .ok output :=
      image_eq_ok_iff.2 ⟨feedFailure, hended, hfed⟩
    rw [runAt_ofProgram_of_ok hchild himage, hwrite] at hrun
    exact (Prod.mk.inj hrun).1.symm

theorem files_eq_of_ofProgram_ne_ok
    (hrun : (ofProgram launch program r).runAt d = (result, after)) (h : result ≠ .ok ()) :
    after.files = d.files := by
  cases himage : image program (launch d.files (invocation program r)) with
  | error e =>
      rw [runAt_ofProgram_of_error rfl himage] at hrun
      cases hrun
      rfl
  | ok output =>
      rw [runAt_ofProgram_of_ok rfl himage] at hrun
      split at hrun
      next =>
        cases hrun
        exact absurd rfl h
      next =>
        cases hrun
        rfl

theorem ofProgram_writes_whole_image_or_nothing
    (hchild : launch d.files (invocation program r) = child)
    (hrun : (ofProgram launch program r).runAt d = (result, after)) :
    (result = .ok () ↔ ∃ output feedFailure files, child = .ended (.code 0) output feedFailure ∧
        Fed feedFailure ∧ d.files.write r.output output = .ok files) ∧
      (∀ status output feedFailure, child = .ended status output feedFailure → result = .ok () →
        d.files.Rewrites after.files r.output output) ∧
      (result ≠ .ok () → after.files = d.files) ∧
      (child = .notStarted .notFound → result = .error (.rendererNotFound program)) ∧
      (∀ cause, cause ≠ .notFound → child = .notStarted cause →
        result = .error (.access program cause)) ∧
      (∀ status output cause, cause ≠ .brokenPipe → child = .ended status output (some cause) →
        result = .error (.access program cause)) ∧
      ∀ status output feedFailure, Fed feedFailure → child = .ended status output feedFailure →
        (status ≠ .code 0 → result = .error (.renderFailed program status)) ∧
          (status = .code 0 → ∀ cause, d.files.write r.output output = .error cause →
            result = .error (.access r.output cause)) := by
  have hfails {e : Error} (himage : image program child = .error e) : result = .error e := by
    rw [runAt_ofProgram_of_error hchild himage] at hrun
    exact (Prod.mk.inj hrun).1.symm
  refine ⟨⟨?_, ?_⟩, ?_, files_eq_of_ofProgram_ne_ok hrun, ?_, ?_, ?_, ?_⟩
  · intro hok
    obtain ⟨output, feedFailure, hended, hfed, hwrite⟩ := (ofProgram_eq_ok_iff hchild hrun).1 hok
    exact ⟨output, feedFailure, after.files, hended, hfed, hwrite⟩
  · rintro ⟨output, feedFailure, files, hended, hfed, hwrite⟩
    have himage : image program child = .ok output :=
      image_eq_ok_iff.2 ⟨feedFailure, hended, hfed⟩
    rw [runAt_ofProgram_of_ok hchild himage, hwrite] at hrun
    exact (Prod.mk.inj hrun).1.symm
  · rintro status output feedFailure rfl hok
    obtain ⟨_, _, hended, _, hwrite⟩ := (ofProgram_eq_ok_iff hchild hrun).1 hok
    cases hended
    exact Workspace.rewrites_of_write hwrite
  · rintro rfl
    exact hfails rfl
  · rintro cause hcause rfl
    exact hfails (image_notStarted hcause program)
  · rintro status output cause hcause rfl
    exact hfails (image_of_not_fed hcause program status output)
  · rintro status output feedFailure hfed rfl
    have himage := image_of_fed hfed program status output
    constructor
    · intro hstatus
      rw [if_neg (mt ExitStatus.isSuccess_iff.1 hstatus)] at himage
      exact hfails himage
    · rintro rfl cause hwrite
      rw [runAt_ofProgram_of_ok hchild himage, hwrite] at hrun
      exact (Prod.mk.inj hrun).1.symm

end Run

theorem image_ne_emptyTableList (program : String) (child : ChildOutcome) :
    image program child ≠ .error .emptyTableList := by
  unfold image
  split
  next => exact fun h => nomatch h
  next => exact fun h => nomatch h
  next =>
    split
    next => exact fun h => nomatch h
    next => split <;> exact fun h => nomatch h

theorem ofProgram_ne_emptyTableList (launch : Launcher) (program : String) (r : RenderRequest)
    (d : Desk) : ((ofProgram launch program r).runAt d).1 ≠ .error .emptyTableList := by
  rw [runAt_ofProgram]
  have himage := image_ne_emptyTableList program (launch d.files (invocation program r))
  cases h : image program (launch d.files (invocation program r)) with
  | error e =>
      rw [h] at himage
      exact fun heq => himage (congrArg _ (Except.error.inj heq))
  | ok output =>
      dsimp only
      rw [Job.runAt_writeFile]
      split <;> exact fun heq => nomatch heq

def oldImage : Workspace := { entries := [(["erd.png"], .file "old".toUTF8 false)] }

def hasty : Launcher := fun _ _ => .ended (.code 0) "new".toUTF8 (some .brokenPipe)

def imageRequest : RenderRequest :=
  { source := "@startuml\n\n@enduml\n", format := .png, limitSize := 4096, output := "erd.png" }

theorem hasty_writes_whole_image :
    (ofProgram hasty "./r" imageRequest).runAt { files := oldImage } =
        (.ok (), { files := { entries := [(["erd.png"], .file "new".toUTF8 false)] }
                   events := [.rendering "./r" imageRequest] }) ∧
      oldImage.Rewrites { entries := [(["erd.png"], .file "new".toUTF8 false)] } "erd.png"
        "new".toUTF8 := by
  have hrun : (ofProgram hasty "./r" imageRequest).runAt { files := oldImage } =
      (.ok (), { files := { entries := [(["erd.png"], .file "new".toUTF8 false)] }
                 events := [.rendering "./r" imageRequest] }) := by
    rfl
  obtain ⟨_, hrewrites, _⟩ := ofProgram_writes_whole_image_or_nothing rfl hrun
  exact ⟨hrun, hrewrites _ _ _ rfl rfl⟩

end Renderer

end SchemaDiagram

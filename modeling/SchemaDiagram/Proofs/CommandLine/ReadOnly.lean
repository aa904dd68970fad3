import SchemaDiagram.Proofs.CommandLine.Work

namespace SchemaDiagram

def Event.isRendering : Event → Bool
  | .rendering .. => true
  | _ => false

section ReadOnly

variable {ε ε' α β : Type} {job : DeskJob ε α} {next : α → DeskJob ε β}

/-- However it ends, the files are as they were, and no renderer was asked for an image. -/
def IsReadOnly (job : DeskJob ε α) : Prop :=
  ∀ d, (job.runAt d).2.files = d.files ∧
    ∃ events, (job.runAt d).2.events = d.events ++ events ∧
      ∀ event ∈ events, event.isRendering = false

theorem isReadOnly_of_desk_eq (h : ∀ d, (job.runAt d).2 = d) : IsReadOnly job := by
  intro d
  rw [h d]
  exact ⟨rfl, [], (List.append_nil _).symm, List.forall_mem_nil _⟩

theorem isReadOnly_pure (a : α) : IsReadOnly (pure a : DeskJob ε α) :=
  isReadOnly_of_desk_eq fun _ => rfl

theorem isReadOnly_throw (e : ε) : IsReadOnly (throw e : DeskJob ε α) :=
  isReadOnly_of_desk_eq fun _ => rfl

theorem isReadOnly_get : IsReadOnly (get : DeskJob ε Desk) :=
  isReadOnly_of_desk_eq fun _ => rfl

theorem isReadOnly_bind (hjob : IsReadOnly job) (hnext : ∀ a, IsReadOnly (next a)) :
    IsReadOnly (job >>= next) := by
  intro d
  obtain ⟨hfiles, events, hevents, hquiet⟩ := hjob d
  rw [DeskJob.runAt_bind]
  rcases hrun : job.runAt d with ⟨result, d'⟩
  rw [hrun] at hfiles hevents
  cases result with
  | error e => exact ⟨hfiles, events, hevents, hquiet⟩
  | ok a =>
      obtain ⟨hfiles', events', hevents', hquiet'⟩ := hnext a d'
      refine ⟨hfiles'.trans hfiles, events ++ events', ?_, ?_⟩
      · rw [← List.append_assoc, ← hevents]
        exact hevents'
      · exact List.forall_mem_append.2 ⟨hquiet, hquiet'⟩

theorem isReadOnly_adapt (wrap : ε → ε') (h : IsReadOnly job) :
    IsReadOnly (ExceptT.adapt wrap job) := h

end ReadOnly

namespace Job

theorem isReadOnly_report {events : List Event} (h : ∀ event ∈ events, event.isRendering = false) :
    IsReadOnly (report events) :=
  fun _ => ⟨rfl, events, rfl, h⟩

theorem isReadOnly_ofExcept {α : Type} (x : Except Error α) : IsReadOnly (ofExcept x) :=
  isReadOnly_of_desk_eq fun d => congrArg Prod.snd (runAt_ofExcept x d)

theorem isReadOnly_readText (path : String) : IsReadOnly (readText path) :=
  isReadOnly_of_desk_eq fun d => congrArg Prod.snd (runAt_readText path d)

end Job

theorem isReadOnly_load (path : String) : IsReadOnly (Settings.load path) := by
  apply isReadOnly_bind (Job.isReadOnly_readText path)
  intro text
  cases Settings.ofYaml text with
  | ok s => exact isReadOnly_pure s
  | error cause => exact isReadOnly_throw _

namespace Source

theorem isReadOnly_ofFolder (directory pattern : String) :
    IsReadOnly (ofFolder directory pattern) := by
  apply isReadOnly_bind (isReadOnly_of_desk_eq fun _ => rfl)
  intro w
  split
  next =>
    split
    next => exact isReadOnly_throw _
    next =>
      apply isReadOnly_bind (Job.isReadOnly_report ?_) fun _ => isReadOnly_pure _
      exact List.forall_mem_singleton.2 rfl
  next => exact isReadOnly_throw _

theorem isReadOnly_ofDump (path : String) : IsReadOnly (ofDump path) := by
  apply isReadOnly_bind (Job.isReadOnly_readText path)
  intro text
  apply isReadOnly_bind (Job.isReadOnly_report ?_) fun _ => isReadOnly_pure _
  exact List.forall_mem_singleton.2 rfl

end Source

namespace CommandLine

theorem GenerateOptions.isReadOnly_settings (o : GenerateOptions) : IsReadOnly o.settings := by
  unfold settings
  -- With and without a file of settings, the options are merged into what there is.
  split
  all_goals
    apply isReadOnly_bind
    on_goal 2 =>
      intro base
      dsimp only
      cases o.merge base with
      | ok s => exact isReadOnly_pure s
      | error e => exact isReadOnly_throw e
  · exact isReadOnly_adapt _ (isReadOnly_load _)
  · exact isReadOnly_pure _

theorem GenerateOptions.isReadOnly_source (o : GenerateOptions) : IsReadOnly o.source := by
  unfold source
  split
  · apply isReadOnly_bind isReadOnly_get
    intro d
    split
    · exact isReadOnly_adapt _ (Source.isReadOnly_ofDump o.input)
    · exact isReadOnly_throw _
  · exact isReadOnly_adapt _ (Source.isReadOnly_ofFolder o.input _)

theorem isReadOnly_collectTables (d : Ddl.Dialect) (tables : List Table)
    (items : List SourceItem) : IsReadOnly (collectTables d tables items) := by
  induction items generalizing tables with
  | nil => exact isReadOnly_pure tables
  | cons item rest ih =>
      apply isReadOnly_bind (Job.isReadOnly_ofExcept item)
      intro group
      apply isReadOnly_bind (Job.isReadOnly_report ?_) fun _ => ih _
      intro event hevent
      obtain ⟨t, _, rfl⟩ := List.mem_map.1 hevent
      rfl

theorem isReadOnly_exportSchema (input : String) (items : List SourceItem) :
    IsReadOnly (exportSchema input items) := by
  apply isReadOnly_bind (isReadOnly_adapt _ (isReadOnly_collectTables Ddl.mysql [] items))
  intro tables
  split
  · exact isReadOnly_bind (isReadOnly_throw _) fun _ => isReadOnly_pure _
  · exact isReadOnly_pure _

theorem isReadOnly_runGenerate {o : GenerateOptions} (h : o.json = true) (launch : Launcher) :
    IsReadOnly (runGenerate launch o) := by
  apply isReadOnly_bind o.isReadOnly_settings
  intro s
  apply isReadOnly_bind o.isReadOnly_source
  intro source
  apply isReadOnly_bind (isReadOnly_adapt _ (Job.isReadOnly_ofExcept _))
  intro _
  apply isReadOnly_bind isReadOnly_get
  intro d
  rw [if_pos h]
  exact isReadOnly_exportSchema o.input _

theorem runGenerate_eq_of_json {o : GenerateOptions} (h : o.json = true)
    (launch launch' : Launcher) : runGenerate launch o = runGenerate launch' o := by
  simp only [runGenerate, h, if_true]

end CommandLine

end SchemaDiagram

import SchemaDiagram.Proofs.Files.Path
import SchemaDiagram.Settings.Basic

namespace SchemaDiagram

open Text SchemaDiagram.Path

variable {f ext : String} {folder name stem trailing : List Char} {d : DottedName}

def artifactExtensions : List String := ["png", "svg", "puml"]

theorem isArtifactExtension_iff :
    isArtifactExtension ext = true ↔ lowerCase ext ∈ artifactExtensions := by
  simp only [isArtifactExtension, ImageFormat.ofExtension?, sourceExtension, artifactExtensions,
    Bool.or_eq_true, List.mem_cons, List.not_mem_nil, or_false]
  by_cases hpng : lowerCase ext = "png"
  · simp [hpng]
  · by_cases hsvg : lowerCase ext = "svg"
    · simp [hsvg]
    · simp only [hpng, hsvg, if_false, Option.isSome_none, Bool.false_eq_true, false_or]
      exact decide_eq_true_iff

theorem isArtifactExtension_of_mem (h : ext ∈ artifactExtensions) :
    isArtifactExtension ext = true := by
  have hall : ∀ ext ∈ artifactExtensions, isArtifactExtension ext = true := by decide +kernel
  exact hall ext h

theorem toLower_mem_lowerCase {c : Char} (h : c ∈ ext.toList) :
    c.toLower ∈ (lowerCase ext).toList := by
  rw [lowerCase, String.toList_ofList]
  exact List.mem_map_of_mem h

theorem not_mem_of_isArtifactExtension (h : isArtifactExtension ext = true) :
    '.' ∉ ext.toList ∧ '/' ∉ ext.toList := by
  have hall : ∀ ext ∈ artifactExtensions, '.' ∉ ext.toList ∧ '/' ∉ ext.toList := by decide
  obtain ⟨hdot, hslash⟩ := hall _ (isArtifactExtension_iff.1 h)
  exact ⟨fun hmem => hdot (toLower_mem_lowerCase hmem),
    fun hmem => hslash (toLower_mem_lowerCase hmem)⟩

theorem ne_empty_of_isArtifactExtension (h : isArtifactExtension ext = true) : ext ≠ "" := by
  have hempty : isArtifactExtension "" = false := by decide +kernel
  rintro rfl
  rw [hempty] at h
  cases h

def IsArtifact (f : String) : Prop :=
  ∃ ext, extension? f = some ext ∧ isArtifactExtension ext = true

theorem spells_artifact (hfolder : EndsFolder folder) (hstem : stem ≠ [] ∧ '/' ∉ stem)
    (hext : isArtifactExtension ext = true) (htrailing : IsTrailing trailing) :
    (DottedName.mk folder stem ext.toList trailing.isEmpty).Spells trailing
      (folder ++ (stem ++ '.' :: ext.toList) ++ trailing) where
  text := rfl
  folder := hfolder
  stem := hstem
  ext := not_mem_of_isArtifactExtension hext
  notUp := fun _ hnil => ne_empty_of_isArtifactExtension hext (String.toList_eq_nil_iff.1 hnil)
  isTrailing := htrailing
  isEnd := rfl

theorem extension?_of_spells (h : d.Spells trailing f.toList) :
    extension? f = some (String.ofList d.ext) := by
  rw [extension?, dottedName?_of_spells h, Option.map_some]

theorem isArtifact_iff : IsArtifact f ↔ ∃ (d : DottedName) (trailing : List Char),
    d.Spells trailing f.toList ∧ isArtifactExtension (String.ofList d.ext) = true := by
  constructor
  · rintro ⟨ext, hext, hknown⟩
    obtain ⟨d, hd, rfl⟩ := Option.map_eq_some_iff.1 hext
    obtain ⟨trailing, hspells⟩ := exists_spells hd
    exact ⟨d, trailing, hspells, hknown⟩
  · rintro ⟨d, trailing, hspells, hknown⟩
    exact ⟨_, extension?_of_spells hspells, hknown⟩

theorem artifactPath_of_spells (h : d.Spells trailing f.toList)
    (hext : isArtifactExtension (String.ofList d.ext) = true) (e : String) :
    artifactPath f e = d.withExtension e := by
  rw [artifactPath, dottedName?_of_spells h]
  exact if_pos hext

theorem artifactPath_of_not_isArtifact (h : ¬IsArtifact f) (e : String) :
    artifactPath f e = f ++ "." ++ e := by
  unfold artifactPath
  split
  next d hd =>
    rw [if_neg fun hext => h ⟨_, by rw [extension?, hd, Option.map_some], hext⟩, appendExtension]
  next => rfl

theorem artifactPath_artifact (hfolder : EndsFolder folder) (hstem : stem ≠ [] ∧ '/' ∉ stem)
    (hext : isArtifactExtension ext = true) (e : String) :
    artifactPath (String.ofList (folder ++ stem) ++ "." ++ ext) e =
      if stem = ['.'] then String.ofList folder ++ ".."
      else String.ofList (folder ++ stem) ++ "." ++ e := by
  have hspells := spells_artifact hfolder hstem hext IsTrailing.nil
  have htext : (String.ofList (folder ++ stem) ++ "." ++ ext).toList =
      folder ++ (stem ++ '.' :: ext.toList) ++ [] := by simp
  rw [← htext] at hspells
  rw [artifactPath_of_spells hspells (by simpa using hext), DottedName.withExtension]
  simp

/-- The last component is two dots and the extension of an artifact. Without its extension the path
leads to the folder above. -/
def LeadsUpward (f : String) : Prop :=
  ∃ folder ext, EndsFolder folder ∧ isArtifactExtension ext = true ∧
    f.toList = folder ++ ('.' :: '.' :: ext.toList)

def IsDotNamed (f : String) : Prop :=
  ∃ folder, EndsFolder folder ∧
    ((¬IsArtifact f ∧ f.toList = folder ++ ['.']) ∨
      ∃ ext trailing, isArtifactExtension ext = true ∧ IsTrailing trailing ∧
        f.toList = folder ++ ('.' :: '.' :: ext.toList) ++ trailing)

theorem dot_stem : ['.'] ≠ [] ∧ '/' ∉ ['.'] := by decide

theorem leadsUpward_iff (h : d.Spells trailing f.toList)
    (hext : isArtifactExtension (String.ofList d.ext) = true) :
    LeadsUpward f ↔ d.stem = ['.'] ∧ trailing = [] := by
  constructor
  · rintro ⟨folder, ext, hfolder, hknown, htext⟩
    have hspells := spells_artifact hfolder dot_stem hknown IsTrailing.nil
    have hname := dottedName?_of_spells hspells
    rw [List.append_nil, List.singleton_append, ← htext, dottedName?_of_spells h] at hname
    obtain rfl := Option.some.inj hname
    exact ⟨rfl, List.isEmpty_iff.1 h.isEnd.symm⟩
  · rintro ⟨hdot, rfl⟩
    refine ⟨d.folder, String.ofList d.ext, h.folder, hext, ?_⟩
    rw [h.text, DottedName.spelling, hdot, String.toList_ofList, List.append_nil,
      List.singleton_append]

theorem isDotNamed_iff (h : d.Spells trailing f.toList)
    (hext : isArtifactExtension (String.ofList d.ext) = true) :
    IsDotNamed f ↔ d.stem = ['.'] := by
  constructor
  · rintro ⟨folder, hfolder, ⟨hnot, _⟩ | ⟨ext, trailing', hknown, htrailing, htext⟩⟩
    · exact absurd (isArtifact_iff.2 ⟨d, trailing, h, hext⟩) hnot
    · have hspells := spells_artifact hfolder dot_stem hknown htrailing
      have hname := dottedName?_of_spells hspells
      rw [List.singleton_append, ← htext, dottedName?_of_spells h] at hname
      obtain rfl := Option.some.inj hname
      rfl
  · intro hdot
    refine ⟨d.folder, h.folder, .inr ⟨String.ofList d.ext, trailing, hext, h.isTrailing, ?_⟩⟩
    rw [h.text, DottedName.spelling, hdot, String.toList_ofList, List.singleton_append]

theorem isArtifact_of_leadsUpward (h : LeadsUpward f) : IsArtifact f := by
  obtain ⟨folder, ext, hfolder, hext, htext⟩ := h
  have hspells := spells_artifact hfolder dot_stem hext IsTrailing.nil
  rw [List.append_nil, List.singleton_append, ← htext] at hspells
  exact isArtifact_iff.2 ⟨_, _, hspells, by simpa using hext⟩

theorem components_extension_ne (base : String) {e e' : String} (he : '/' ∉ e.toList)
    (he' : '/' ∉ e'.toList) (hne : e ≠ "") (hne' : e' ≠ "") (h : e ≠ e') :
    components (base ++ "." ++ e) ≠ components (base ++ "." ++ e') := by
  obtain ⟨folder, name, hbase, hfolder, hname⟩ := exists_folder_append base.toList
  have hcomponents : ∀ e : String, '/' ∉ e.toList → e ≠ "" →
      components (base ++ "." ++ e) =
        components (String.ofList folder) ++ [String.ofList (name ++ '.' :: e.toList)] := by
    intro e hslash hne
    have htext : base ++ "." ++ e = String.ofList (folder ++ (name ++ '.' :: e.toList)) := by
      rw [← String.toList_inj]
      simp [hbase]
    rw [htext, components_folder_append hfolder (by simp [hname, hslash]) (by simp)]
    intro hdot
    have hlength := congrArg List.length hdot
    simp only [List.length_append, List.length_cons, List.length_nil] at hlength
    exact hne (String.toList_eq_nil_iff.1 (List.length_eq_zero_iff.1 (by omega)))
  intro heq
  rw [hcomponents e he hne, hcomponents e' he' hne', List.append_cancel_left_eq,
    List.cons.injEq, String.ofList_inj, List.append_cancel_left_eq, List.cons.injEq] at heq
  exact h (String.toList_inj.1 heq.1.2)

theorem exists_base_of_not_leadsUpward (h : ¬LeadsUpward f) :
    ∃ base, ∀ e, artifactPath f e = base ++ "." ++ e := by
  by_cases hartifact : IsArtifact f
  · obtain ⟨d, trailing, hspells, hext⟩ := isArtifact_iff.1 hartifact
    refine ⟨String.ofList (d.folder ++ d.stem), fun e => ?_⟩
    rw [leadsUpward_iff hspells hext] at h
    rw [artifactPath_of_spells hspells hext, DottedName.withExtension, hspells.isEnd, if_neg]
    simpa using h
  · exact ⟨f, artifactPath_of_not_isArtifact hartifact⟩

theorem artifactPath_of_leadsUpward (h : LeadsUpward f) (e e' : String) :
    artifactPath f e = artifactPath f e' := by
  obtain ⟨d, trailing, hspells, hext⟩ := isArtifact_iff.1 (isArtifact_of_leadsUpward h)
  obtain ⟨hdot, rfl⟩ := (leadsUpward_iff hspells hext).1 h
  rw [artifactPath_of_spells hspells hext, artifactPath_of_spells hspells hext,
    DottedName.withExtension, DottedName.withExtension, hspells.isEnd, hdot]
  rfl

theorem artifactPath_folder_above (hfolder : EndsFolder folder) (e : String) :
    artifactPath (String.ofList folder ++ "..") e = String.ofList folder ++ ".." ++ "." ++ e := by
  apply artifactPath_of_not_isArtifact
  rintro ⟨ext, hext, _⟩
  have htext : (String.ofList folder ++ "..").toList = folder ++ ['.', '.'] := by simp
  rw [extension?, htext, dottedName?_folder_above hfolder] at hext
  cases hext

theorem folder_above_ne (folder : List Char) {e : String} (h : e ∈ artifactExtensions) :
    String.ofList folder ++ ".." ≠ String.ofList (folder ++ ['.']) ++ "." ++ e := by
  have hne := ne_empty_of_isArtifactExtension (isArtifactExtension_of_mem h)
  have hbase : String.ofList (folder ++ ['.']) ++ "." = String.ofList folder ++ ".." := by
    rw [← String.toList_inj]
    simp
  rw [hbase]
  exact fun heq => hne (by simpa using heq.symm)

theorem artifactPath_artifactPath_of_isArtifact (h : d.Spells trailing f.toList)
    (hext : isArtifactExtension (String.ofList d.ext) = true) {e e' : String}
    (he : e ∈ artifactExtensions) (he' : e' ∈ artifactExtensions) :
    artifactPath (artifactPath f e) e' = artifactPath f e' ↔ d.stem ≠ ['.'] := by
  have hstem := artifactPath_artifact h.folder h.stem (isArtifactExtension_of_mem he) e'
  rw [artifactPath_of_spells h hext, artifactPath_of_spells h hext, DottedName.withExtension,
    DottedName.withExtension, h.isEnd]
  by_cases hdot : d.stem = ['.']
  · rw [if_pos hdot] at hstem
    refine iff_of_false ?_ (fun hne => hne hdot)
    cases trailing with
    | nil =>
        simp only [hdot, decide_true, List.isEmpty_nil, Bool.and_true, if_true]
        rw [artifactPath_folder_above h.folder, String.append_assoc]
        simp
    | cons c trailing =>
        -- The first artifact keeps its extension here, and it is the second that loses it.
        simp only [List.isEmpty_cons, Bool.and_false, Bool.false_eq_true, if_false]
        rw [hstem, hdot]
        exact folder_above_ne d.folder he'
  · rw [if_neg hdot] at hstem
    simp only [hdot, decide_false, Bool.false_and, Bool.false_eq_true, if_false]
    exact iff_of_true hstem hdot

theorem isDotNamed_iff_of_not_isArtifact (h : ¬IsArtifact f) (hfolder : EndsFolder folder)
    (hname : '/' ∉ name) (htext : f.toList = folder ++ name) : IsDotNamed f ↔ name = ['.'] := by
  constructor
  · rintro ⟨folder', hfolder', ⟨_, htext'⟩ | ⟨ext, trailing, hknown, htrailing, htext'⟩⟩
    · rw [htext] at htext'
      exact (folder_append_inj hfolder hfolder' hname dot_stem.2 htext').2
    · have hspells := spells_artifact hfolder' dot_stem hknown htrailing
      rw [List.singleton_append, ← htext'] at hspells
      exact absurd (isArtifact_iff.2 ⟨_, _, hspells, by simpa using hknown⟩) h
  · rintro rfl
    exact ⟨folder, hfolder, .inl ⟨h, htext⟩⟩

theorem artifactPath_artifactPath_of_not_isArtifact (h : ¬IsArtifact f) (hne : f ≠ "")
    (hlast : f.toList.getLast? ≠ some '/') {e e' : String} (he : e ∈ artifactExtensions)
    (he' : e' ∈ artifactExtensions) :
    artifactPath (artifactPath f e) e' = artifactPath f e' ↔ ¬IsDotNamed f := by
  obtain ⟨folder, name, htext, hfolder, hname⟩ := exists_folder_append f.toList
  have hstem : name ≠ [] := by
    rintro rfl
    rw [List.append_nil] at htext
    rcases hfolder.eq_nil_or_append_slash with rfl | ⟨s, rfl⟩
    · exact hne (String.toList_eq_nil_iff.1 htext)
    · exact hlast (by simp [htext])
  obtain rfl : f = String.ofList (folder ++ name) := by rw [← htext, String.ofList_toList]
  rw [isDotNamed_iff_of_not_isArtifact h hfolder hname htext, artifactPath_of_not_isArtifact h,
    artifactPath_of_not_isArtifact h,
    artifactPath_artifact hfolder ⟨hstem, hname⟩ (isArtifactExtension_of_mem he)]
  split
  next hdot =>
    rw [hdot]
    exact iff_of_false (folder_above_ne folder he') (fun h => h rfl)
  next hdot => exact iff_of_true rfl hdot

theorem artifactPath_artifactPath_iff (hne : f ≠ "") (hlast : f.toList.getLast? ≠ some '/')
    {e e' : String} (he : e ∈ artifactExtensions) (he' : e' ∈ artifactExtensions) :
    artifactPath (artifactPath f e) e' = artifactPath f e' ↔ ¬IsDotNamed f := by
  by_cases h : IsArtifact f
  · obtain ⟨d, trailing, hspells, hext⟩ := isArtifact_iff.1 h
    rw [artifactPath_artifactPath_of_isArtifact hspells hext he he', isDotNamed_iff hspells hext]
  · exact artifactPath_artifactPath_of_not_isArtifact h hne hlast he he'

theorem artifacts_are_apart (f : String) :
    (∀ s : Settings, s.filename = some f →
      ∃ image source, s.imagePath? = some image ∧ s.sourcePath? = some source ∧
        (¬LeadsUpward f → components image ≠ components source) ∧
        (LeadsUpward f → image = source)) ∧
      (f ≠ "" → f.toList.getLast? ≠ some '/' →
        ∀ e ∈ ["png", "svg", "puml"], ∀ e' ∈ ["png", "svg", "puml"],
          (artifactPath (artifactPath f e) e' = artifactPath f e' ↔ ¬IsDotNamed f)) ∧
      ((∀ ext, extension? f = some ext → lowerCase ext ∉ ["png", "svg", "puml"]) →
        ∀ e, artifactPath f e = f ++ "." ++ e) := by
  refine ⟨?_, ?_, ?_⟩
  · intro s hs
    refine ⟨artifactPath f s.format.extension, artifactPath f sourceExtension,
      by rw [Settings.imagePath?, hs, Option.map_some],
      by rw [Settings.sourcePath?, hs, Option.map_some], ?_, ?_⟩
    · intro h
      obtain ⟨base, hbase⟩ := exists_base_of_not_leadsUpward h
      rw [hbase, hbase]
      cases s.format <;> exact components_extension_ne base (by decide) (by decide) (by decide)
        (by decide) (by decide)
    · exact fun h => artifactPath_of_leadsUpward h _ _
  · intro hne hlast e he e' he'
    exact artifactPath_artifactPath_iff hne hlast he he'
  · intro h e
    apply artifactPath_of_not_isArtifact
    rintro ⟨ext, hext, hknown⟩
    exact h ext hext (isArtifactExtension_iff.1 hknown)

theorem isDotNamed_of_leadsUpward (h : LeadsUpward f) : IsDotNamed f := by
  obtain ⟨folder, ext, hfolder, hext, htext⟩ := h
  exact ⟨folder, hfolder, .inr ⟨ext, [], hext, .nil, by rw [htext, List.append_nil]⟩⟩

theorem not_isDotNamed_pim : ¬IsDotNamed "out/.pim.v2.PNG/." := by
  have hfolder : EndsFolder "out/".toList := endsFolder_append_slash "out".toList
  have hstem : ".pim.v2".toList ≠ [] ∧ '/' ∉ ".pim.v2".toList := by decide
  have hspells := spells_artifact hfolder hstem
    (show isArtifactExtension "PNG" = true by decide +kernel) (.here .nil)
  have htext : "out/".toList ++ (".pim.v2".toList ++ '.' :: "PNG".toList) ++ ['/', '.'] =
      "out/.pim.v2.PNG/.".toList := by decide
  rw [htext] at hspells
  rw [isDotNamed_iff hspells (by decide +kernel)]
  decide

theorem pim_artifacts_are_apart :
    (¬LeadsUpward "out/.pim.v2.PNG/." ∧
        components "out/.pim.v2.svg" ≠ components "out/.pim.v2.puml") ∧
      (¬IsDotNamed "out/.pim.v2.PNG/." ∧
        artifactPath "out/.pim.v2.puml" "svg" = artifactPath "out/.pim.v2.PNG/." "svg") ∧
      ((∀ ext, extension? "schema.v2" = some ext → lowerCase ext ∉ ["png", "svg", "puml"]) ∧
        artifactPath "schema.v2" "png" = "schema.v2.png") := by
  have hup : ¬LeadsUpward "out/.pim.v2.PNG/." :=
    fun h => not_isDotNamed_pim (isDotNamed_of_leadsUpward h)
  have hother : ∀ ext, extension? "schema.v2" = some ext →
      lowerCase ext ∉ ["png", "svg", "puml"] := by
    have hext : extension? "schema.v2" = some "v2" := by decide +kernel
    rintro ext h
    obtain rfl := Option.some.inj (hext.symm.trans h)
    decide +kernel
  obtain ⟨hpaths, hagain, _⟩ := artifacts_are_apart "out/.pim.v2.PNG/."
  obtain ⟨_, _, hkept⟩ := artifacts_are_apart "schema.v2"
  obtain ⟨image, source, himage, hsource, hapart, _⟩ :=
    hpaths { filename := some "out/.pim.v2.PNG/.", format := .svg } rfl
  have hpuml : artifactPath "out/.pim.v2.PNG/." "puml" = "out/.pim.v2.puml" := by decide +kernel
  have hsvg : artifactPath "out/.pim.v2.PNG/." "svg" = "out/.pim.v2.svg" := by decide +kernel
  obtain rfl : image = "out/.pim.v2.svg" := (Option.some.inj himage).symm.trans hsvg
  obtain rfl : source = "out/.pim.v2.puml" := (Option.some.inj hsource).symm.trans hpuml
  have hreused := (hagain (by decide) (by decide) "puml" (by decide) "svg" (by decide)).2
    not_isDotNamed_pim
  rw [hpuml] at hreused
  exact ⟨⟨hup, hapart hup⟩, ⟨not_isDotNamed_pim, hreused⟩, hother, hkept hother "png"⟩

theorem dotNamed_artifacts_collide :
    (Settings.imagePath? { filename := some "..png", format := .svg } = some ".." ∧
        Settings.sourcePath? { filename := some "..png", format := .svg } = some "..") ∧
      (artifactPath (artifactPath "." "png") "svg" = ".." ∧ artifactPath "." "svg" = "..svg") := by
  decide +kernel

end SchemaDiagram

import Mathlib.Data.List.Nodup
import SchemaDiagram.Proofs.Files.Path
import SchemaDiagram.Proofs.Files.Reading

namespace SchemaDiagram

structure IsEntryName (name : String) : Prop where
  ne_empty : name ≠ ""
  ne_here : name ≠ "."
  ne_above : name ≠ ".."
  noSlash : '/' ∉ name.toList
  noNul : '\x00' ∉ name.toList
  fits : name.utf8ByteSize ≤ Workspace.nameLimit

instance (name : String) : Decidable (IsEntryName name) :=
  decidable_of_iff
    (name ≠ "" ∧ name ≠ "." ∧ name ≠ ".." ∧ '/' ∉ name.toList ∧ '\x00' ∉ name.toList ∧
      name.utf8ByteSize ≤ Workspace.nameLimit)
    ⟨fun ⟨h, h', h'', h₁, h₂, h₃⟩ => ⟨h, h', h'', h₁, h₂, h₃⟩,
      fun ⟨h, h', h'', h₁, h₂, h₃⟩ => ⟨h, h', h'', h₁, h₂, h₃⟩⟩

namespace Path

variable {directory name : String} {folder : List Char}

theorem entry_injective (directory : String) : Function.Injective (entry directory) := by
  intro name name' h
  unfold entry at h
  split at h
  · exact (String.append_right_inj directory).1 h
  · exact (String.append_right_inj _).1 h

theorem exists_entry (hne : directory ≠ "") (name : String) :
    ∃ folder : List Char, EndsFolder folder ∧ folder ≠ [] ∧
      (entry directory name).toList = folder ++ name.toList ∧
      (folder = directory.toList ∨ folder = directory.toList ++ ['/']) := by
  have hne' : directory.toList ≠ [] := fun h => hne (String.toList_eq_nil_iff.1 h)
  unfold entry
  split
  next h =>
    refine ⟨directory.toList, ?_, hne', String.toList_append, .inl rfl⟩
    rw [EndsFolder, h]
    exact fun c hc => (Option.mem_some.1 hc).symm
  next =>
    refine ⟨directory.toList ++ ['/'], endsFolder_append_slash _, ?_, ?_, .inr rfl⟩
    · exact List.append_ne_nil_of_left_ne_nil hne' _
    · rw [String.toList_append, String.toList_append]
      rfl

theorem steps_entry (hne : directory ≠ "") (hname : IsEntryName name) :
    steps (entry directory name) = steps directory ++ [name] := by
  obtain ⟨folder, hends, _, htext, hfolder⟩ := exists_entry hne name
  have hnil : name.toList ≠ [] := fun h => hname.ne_empty (String.toList_eq_nil_iff.1 h)
  have hsteps : steps (String.ofList folder) = steps directory := by
    rcases hfolder with rfl | rfl
    · rw [String.ofList_toList]
    · rw [steps_append_slash, String.ofList_toList]
  rw [← String.ofList_toList (s := entry directory name), htext,
    steps_folder_append hends hname.noSlash hnil, hsteps, String.ofList_toList]

theorem isAbsolute_entry (hne : directory ≠ "") (name : String) :
    isAbsolute (entry directory name) = isAbsolute directory := by
  have hne' : directory.toList ≠ [] := fun h => hne (String.toList_eq_nil_iff.1 h)
  obtain ⟨c, r, hcons⟩ := List.exists_cons_of_ne_nil hne'
  obtain ⟨folder, _, _, htext, rfl | rfl⟩ := exists_entry hne name <;>
    rw [isAbsolute, isAbsolute, htext, hcons] <;> rfl

theorem namesFolder_entry (hne : directory ≠ "") (hname : IsEntryName name) :
    namesFolder (entry directory name) = false := by
  obtain ⟨folder, hends, hfolder, htext, _⟩ := exists_entry hne name
  obtain rfl | ⟨s, rfl⟩ := hends.eq_nil_or_append_slash
  · exact absurd rfl hfolder
  · have hlast : ((entry directory name).toList.splitOn '/').getLast? = some name.toList := by
      rw [htext, List.append_assoc, List.singleton_append, List.splitOn_append_cons_self,
        List.splitOn_eq_singleton hname.noSlash, List.getLast?_append]
      rfl
    have hempty : name.toList ≠ [] := fun h => hname.ne_empty (String.toList_inj.1 h)
    have hhere : name.toList ≠ ['.'] := fun h => hname.ne_here (String.toList_inj.1 h)
    have habove : name.toList ≠ ['.', '.'] := fun h => hname.ne_above (String.toList_inj.1 h)
    rw [namesFolder, hlast]
    simp [hempty, hhere, habove]

end Path

namespace Workspace

variable {w w' : Workspace} {at_ folder : Location} {directory path name : String}

theorem filterMap_listedNames (w : Workspace) (folder : Location) :
    (w.listedNames folder).filterMap String.fromUTF8? = w.fileNames folder := by
  have hraw : ∀ name ∈ (w.unnamed.filter (·.1 = folder)).map (·.2.bytes),
      String.fromUTF8? name = none := by
    intro name hname
    obtain ⟨e, _, rfl⟩ := List.mem_map.1 hname
    exact dif_neg e.2.notText
  rw [listedNames, List.filterMap_append, List.filterMap_eq_nil_iff.2 hraw, List.append_nil,
    List.filterMap_map]
  have htext : String.fromUTF8? ∘ String.toUTF8 = some := funext fromUTF8?_toUTF8
  rw [htext, List.filterMap_some]

theorem start_entry (hstart : w.start directory = .ok at_) (hname : IsEntryName name)
    (hfits : fits (Path.entry directory name) = true) :
    w.start (Path.entry directory name) = .ok at_ := by
  obtain ⟨hnul, hne, _, hat⟩ := start_eq_ok_iff.1 hstart
  obtain ⟨folder, _, hfolder, htext, heq⟩ := Path.exists_entry hne name
  refine start_eq_ok_iff.2 ⟨?_, ?_, hfits, by rw [Path.isAbsolute_entry hne, hat]⟩
  · rw [htext, List.mem_append, not_or]
    refine ⟨?_, hname.noNul⟩
    obtain rfl | rfl := heq
    · exact hnul
    · simpa using hnul
  · intro hempty
    rw [hempty] at htext
    exact hfolder (List.append_eq_nil_iff.1 htext.symm).1

theorem find_entry_eq_ok_iff (hfolder : w.find directory = .ok (folder, .folder))
    (hname : IsEntryName name) {entry : FileEntry} :
    w.find (Path.entry directory name) = .ok (at_, entry) ↔
      fits (Path.entry directory name) = true ∧ at_ = folder ++ [name] ∧
        w.entryAt? at_ = some entry := by
  obtain ⟨hlocate, hentry, _⟩ := find_eq_ok_iff.1 hfolder
  obtain ⟨here, hstart, hwalk⟩ := bind_eq_ok_iff.1 hlocate
  have hne : directory ≠ "" := (start_eq_ok_iff.1 hstart).2.1
  by_cases hfits : fits (Path.entry directory name) = true
  · have hlocate' : w.locate (Path.entry directory name) = .ok (folder ++ [name]) := by
      have hstep : w.walk folder [name] = .ok (folder ++ [name]) := by
        rw [walk, hentry]
        dsimp only
        rw [if_neg (Nat.not_lt.2 hname.fits), step, if_neg hname.ne_here, if_neg hname.ne_above]
        rfl
      rw [locate, start_entry hstart hname hfits, Path.steps_entry hne hname]
      refine bind_eq_ok_iff.2 ⟨here, rfl, ?_⟩
      rw [walk_append]
      exact bind_eq_ok_iff.2 ⟨folder, hwalk, hstep⟩
    rw [find_eq_ok_iff, hlocate', Path.namesFolder_entry hne hname, Except.ok.injEq, eq_comm]
    simp [hfits]
  · exact iff_of_false (fun h => hfits (fits_of_find h)) (fun h => hfits h.1)

theorem isFile_eq_true_iff :
    w.isFile path = true ↔ ∃ at_ content x, w.find path = .ok (at_, .file content x) := by
  unfold isFile
  split
  next at_ content x h => exact iff_of_true rfl ⟨at_, content, x, h⟩
  next h => exact iff_of_false Bool.false_ne_true (fun ⟨at_, c, x, heq⟩ => h at_ c x heq)

def HasFile (w : Workspace) (folder : Location) (name : String) : Prop :=
  ∃ content x, w.entryAt? (folder ++ [name]) = some (.file content x)

theorem isFile_entry_iff (hfolder : w.find directory = .ok (folder, .folder))
    (hname : IsEntryName name) :
    w.isFile (Path.entry directory name) = true ↔
      fits (Path.entry directory name) = true ∧ w.HasFile folder name := by
  rw [isFile_eq_true_iff]
  constructor
  · rintro ⟨at_, content, x, hfind⟩
    obtain ⟨hfits, rfl, hentry⟩ := (find_entry_eq_ok_iff hfolder hname).1 hfind
    exact ⟨hfits, content, x, hentry⟩
  · rintro ⟨hfits, content, x, hentry⟩
    exact ⟨_, content, x, (find_entry_eq_ok_iff hfolder hname).2 ⟨hfits, rfl, hentry⟩⟩

structure WellFormed (w : Workspace) : Prop where
  nodup : (w.entries.map (·.1)).Nodup
  entries : ∀ e ∈ w.entries, ∀ name ∈ e.1, IsEntryName name
  current : ∀ name ∈ w.current, IsEntryName name

theorem WellFormed.lookup_eq_some_iff (h : w.WellFormed) {entry : FileEntry} :
    w.entries.lookup at_ = some entry ↔ (at_, entry) ∈ w.entries := by
  constructor
  · intro hlookup
    obtain ⟨before, after, heq, _⟩ := List.lookup_eq_some_iff.1 hlookup
    rw [heq]
    exact List.mem_append_right before List.mem_cons_self
  · intro hmem
    obtain ⟨before, after, heq⟩ := List.append_of_mem hmem
    have hnodup := h.nodup
    rw [heq, List.map_append, List.map_cons, List.nodup_middle, List.nodup_cons] at hnodup
    refine List.lookup_eq_some_iff.2 ⟨before, after, heq, fun e he => ?_⟩
    rw [bne_iff_ne]
    rintro rfl
    exact hnodup.1 (List.mem_append_left _ (List.mem_map.2 ⟨e, he, rfl⟩))

theorem fileName?_eq_some_iff {e : Location × FileEntry} :
    fileName? folder e = some name ↔ ∃ content x, e = (folder ++ [name], .file content x) := by
  obtain ⟨at_, entry⟩ := e
  cases entry with
  | folder => exact iff_of_false (fun h => nomatch h) (fun ⟨_, _, h⟩ => nomatch h)
  | file content x =>
      rw [fileName?, Option.filter_eq_some_iff, decide_eq_true_iff]
      constructor
      · rintro ⟨hlast, rfl⟩
        exact ⟨content, x, by rw [List.dropLast_append_getLast? _ hlast]⟩
      · rintro ⟨_, _, h⟩
        rw [(Prod.mk.inj h).1]
        simp

theorem WellFormed.hasFile_iff (h : w.WellFormed) :
    w.HasFile folder name ↔ ∃ content x, (folder ++ [name], .file content x) ∈ w.entries := by
  have hentryAt : w.entryAt? (folder ++ [name]) = w.entries.lookup (folder ++ [name]) := by
    cases folder <;> rfl
  simp only [HasFile, hentryAt, h.lookup_eq_some_iff]

theorem WellFormed.isEntryName_of_hasFile (h : w.WellFormed) (hfile : w.HasFile folder name) :
    IsEntryName name := by
  obtain ⟨content, x, hmem⟩ := h.hasFile_iff.1 hfile
  exact h.entries _ hmem name (List.mem_append_right folder (List.mem_singleton_self name))

theorem WellFormed.mem_fileNames_iff (h : w.WellFormed) :
    name ∈ w.fileNames folder ↔ w.HasFile folder name := by
  simp only [fileNames, List.mem_filterMap, fileName?_eq_some_iff, h.hasFile_iff]
  constructor
  · rintro ⟨_, hmem, content, x, rfl⟩
    exact ⟨content, x, hmem⟩
  · rintro ⟨content, x, hmem⟩
    exact ⟨_, hmem, content, x, rfl⟩

theorem WellFormed.nodup_fileNames (h : w.WellFormed) (folder : Location) :
    (w.fileNames folder).Nodup := by
  refine List.Pairwise.filterMap _ ?_ (List.pairwise_map.1 h.nodup)
  rintro e e' hne name hname _ hname' rfl
  obtain ⟨_, _, rfl⟩ := fileName?_eq_some_iff.1 hname
  obtain ⟨_, _, rfl⟩ := fileName?_eq_some_iff.1 hname'
  exact hne rfl

theorem map_fst_put (w : Workspace) (at_ : Location) (entry : FileEntry) :
    (w.put at_ entry).entries.map (·.1) =
      if at_ ∈ w.entries.map (·.1) then w.entries.map (·.1) else w.entries.map (·.1) ++ [at_] := by
  have hany : w.entries.any (·.1 == at_) = true ↔ at_ ∈ w.entries.map (·.1) := by
    rw [List.any_eq_true, List.mem_map]
    simp only [beq_iff_eq]
  unfold put
  by_cases hmem : at_ ∈ w.entries.map (·.1)
  · rw [if_pos (hany.2 hmem), if_pos hmem]
    dsimp only
    rw [List.map_map]
    refine List.map_congr_left fun e _ => ?_
    by_cases he : e.1 = at_
    · simp [he]
    · simp [he]
  · rw [if_neg fun h => hmem (hany.1 h), if_neg hmem]
    simp

theorem WellFormed.put (h : w.WellFormed) (hname : ∀ name ∈ at_, IsEntryName name)
    (entry : FileEntry) : (w.put at_ entry).WellFormed := by
  have hlocations := map_fst_put w at_ entry
  refine ⟨?_, ?_, by rw [current_put]; exact h.current⟩
  · rw [hlocations]
    split
    next => exact h.nodup
    next hnew => exact List.nodup_append_comm.1 (List.nodup_cons.2 ⟨hnew, h.nodup⟩)
  · intro e he
    have hmem : e.1 ∈ (w.put at_ entry).entries.map (·.1) := List.mem_map.2 ⟨e, he, rfl⟩
    have hold : e.1 ∈ w.entries.map (·.1) → ∀ name ∈ e.1, IsEntryName name := by
      intro hmem
      obtain ⟨e', he', heq⟩ := List.mem_map.1 hmem
      exact heq ▸ h.entries e' he'
    rw [hlocations] at hmem
    split at hmem
    next => exact hold hmem
    next =>
      rcases List.mem_append.1 hmem with hmem | hmem
      · exact hold hmem
      · rwa [List.mem_singleton.1 hmem]

theorem isEntryName_of_walk {here there : Location} {steps : List String}
    (hsteps : ∀ s ∈ steps, s ≠ "" ∧ '/' ∉ s.toList ∧ '\x00' ∉ s.toList)
    (hhere : ∀ name ∈ here, IsEntryName name) (h : w.walk here steps = .ok there) :
    ∀ name ∈ there, IsEntryName name := by
  induction steps generalizing here with
  | nil =>
      obtain rfl := Except.ok.inj h
      exact hhere
  | cons s steps ih =>
      obtain ⟨⟨hne, hslash, hnul⟩, hsteps⟩ := List.forall_mem_cons.1 hsteps
      rw [walk] at h
      split at h
      next => cases h
      next => cases h
      next =>
        split at h
        next => cases h
        next hlimit =>
          refine ih hsteps ?_ h
          unfold step
          split
          next => exact hhere
          next hdot =>
            split
            next => exact fun name hname => hhere name (List.dropLast_subset here hname)
            next hdots =>
              have hname : IsEntryName s := ⟨hne, hdot, hdots, hslash, hnul, Nat.not_lt.1 hlimit⟩
              exact List.forall_mem_append.2 ⟨hhere, List.forall_mem_singleton.2 hname⟩

theorem WellFormed.write (h : w.WellFormed) {content : ByteArray}
    (hwrite : w.write path content = .ok w') : w'.WellFormed := by
  obtain ⟨at_, hwritable, rfl⟩ := write_eq_ok_iff.1 hwrite
  obtain ⟨hlocate, _, _⟩ := writable_eq_ok hwritable
  obtain ⟨here, hstart, hwalk⟩ := bind_eq_ok_iff.1 hlocate
  obtain ⟨hnul, _, _, hhere⟩ := start_eq_ok_iff.1 hstart
  refine h.put (isEntryName_of_walk ?_ ?_ hwalk) _
  · intro s hs
    obtain ⟨hne, hslash, hmem⟩ := Path.of_mem_steps hs
    exact ⟨hne, hslash, fun h => hnul (hmem _ h)⟩
  · rw [hhere]
    split
    next => exact List.forall_mem_nil _
    next => exact h.current

structure SameContent (w w' : Workspace) : Prop where
  entries : w.entries.Perm w'.entries
  unnamed : w.unnamed.Perm w'.unnamed
  current : w.current = w'.current

theorem WellFormed.of_sameContent (h : w.WellFormed) (hsame : w.SameContent w') :
    w'.WellFormed where
  nodup := (hsame.entries.map _).nodup_iff.1 h.nodup
  entries := fun e he => h.entries e (hsame.entries.mem_iff.2 he)
  current := hsame.current ▸ h.current

theorem WellFormed.entryAt?_of_sameContent (h : w.WellFormed) (hsame : w.SameContent w') :
    w'.entryAt? = w.entryAt? := by
  funext at_
  cases at_ with
  | nil => rfl
  | cons s at_ =>
      refine Option.ext fun entry => ?_
      exact (h.of_sameContent hsame).lookup_eq_some_iff.trans
        (hsame.entries.mem_iff.symm.trans h.lookup_eq_some_iff.symm)

theorem walk_congr (h : w'.entryAt? = w.entryAt?) : w'.walk = w.walk := by
  funext here steps
  induction steps generalizing here with
  | nil => rfl
  | cons s steps ih =>
      rw [walk, walk, h]
      simp only [ih]

theorem WellFormed.find_of_sameContent (h : w.WellFormed) (hsame : w.SameContent w') :
    w'.find = w.find := by
  have hentryAt := h.entryAt?_of_sameContent hsame
  funext path
  unfold find locate start
  rw [walk_congr hentryAt, hentryAt, hsame.current]

theorem WellFormed.readText_of_sameContent (h : w.WellFormed) (hsame : w.SameContent w') :
    w'.readText = w.readText := by
  funext path
  unfold readText read
  rw [h.find_of_sameContent hsame]

theorem SameContent.fileNames (hsame : w.SameContent w') (folder : Location) :
    (w.fileNames folder).Perm (w'.fileNames folder) :=
  hsame.entries.filterMap _

end Workspace

end SchemaDiagram

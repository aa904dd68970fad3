import SchemaDiagram.Files.Path
import SchemaDiagram.Proofs.Text.Span

namespace SchemaDiagram.Path

open Text

variable {folder folder' name name' trailing path : List Char} {d : DottedName}

def EndsFolder (folder : List Char) : Prop := ∀ c ∈ folder.getLast?, c = '/'

theorem endsFolder_nil : EndsFolder [] := by
  intro c hc
  cases hc

theorem endsFolder_append_slash (s : List Char) : EndsFolder (s ++ ['/']) := by
  intro c hc
  rw [List.getLast?_append, List.getLast?_singleton, Option.some_or] at hc
  exact (Option.mem_some.1 hc).symm

theorem EndsFolder.eq_nil_or_append_slash (h : EndsFolder folder) :
    folder = [] ∨ ∃ s, folder = s ++ ['/'] := by
  cases hlast : folder.getLast? with
  | none => exact .inl (List.getLast?_eq_none_iff.1 hlast)
  | some c =>
      obtain ⟨s, hs⟩ := List.getLast?_eq_some_iff.1 hlast
      exact .inr ⟨s, h c hlast ▸ hs⟩

theorem EndsFolder.stops_reverse (h : EndsFolder folder) :
    Stops (fun c => c ≠ '/') folder.reverse := by
  intro c hc
  rw [List.head?_reverse] at hc
  simpa using h c hc

theorem endsFolder_reverse (h : Stops (fun c => decide (c ≠ '/')) folder) :
    EndsFolder folder.reverse := by
  intro c hc
  rw [List.getLast?_reverse] at hc
  simpa using h c hc

theorem exists_folder_append (path : List Char) :
    ∃ folder name, path = folder ++ name ∧ EndsFolder folder ∧ '/' ∉ name := by
  obtain ⟨name, folder, hpath, hname, hfolder⟩ :=
    exists_append_stops (fun c => decide (c ≠ '/')) path.reverse
  refine ⟨folder.reverse, name.reverse, ?_, endsFolder_reverse hfolder, ?_⟩
  · rw [← List.reverse_append, ← hpath, List.reverse_reverse]
  · intro hmem
    simpa using hname '/' (List.mem_reverse.1 hmem)

theorem ne_slash_of_mem_reverse (h : '/' ∉ name) : ∀ c ∈ name.reverse, decide (c ≠ '/') = true := by
  intro c hc
  have hne : c ≠ '/' := fun heq => h (heq ▸ List.mem_reverse.1 hc)
  exact decide_eq_true hne

theorem folder_append_inj (hfolder : EndsFolder folder) (hfolder' : EndsFolder folder')
    (hname : '/' ∉ name) (hname' : '/' ∉ name') (h : folder ++ name = folder' ++ name') :
    folder = folder' ∧ name = name' := by
  have hreverse := congrArg List.reverse h
  rw [List.reverse_append, List.reverse_append] at hreverse
  obtain ⟨hn, hf⟩ := append_inj_of_stops (ne_slash_of_mem_reverse hname)
    (ne_slash_of_mem_reverse hname') hfolder.stops_reverse hfolder'.stops_reverse hreverse
  exact ⟨List.reverse_inj.1 hf, List.reverse_inj.1 hn⟩

theorem steps_append_slash (s : List Char) :
    steps (String.ofList (s ++ ['/'])) = steps (String.ofList s) := by
  simp only [steps, String.toList_ofList, List.splitOn_append_cons_self, List.splitOn_nil,
    List.map_append, List.map_cons, List.map_nil, List.filter_append]
  rw [List.filter_cons_of_neg (by decide), List.filter_nil, List.append_nil]

theorem steps_folder_append (hfolder : EndsFolder folder) (hname : '/' ∉ name)
    (hne : name ≠ []) :
    steps (String.ofList (folder ++ name)) =
      steps (String.ofList folder) ++ [String.ofList name] := by
  have hkeep : String.ofList name ≠ "" := mt String.ofList_eq_empty_iff.1 hne
  rcases hfolder.eq_nil_or_append_slash with rfl | ⟨s, rfl⟩
  · simp [steps, List.splitOn_eq_singleton hname, hkeep]
  · rw [steps_append_slash, List.append_assoc]
    simp [steps, List.splitOn_append_cons_self, List.splitOn_eq_singleton hname, hkeep]

theorem of_mem_steps {path step : String} (h : step ∈ steps path) :
    step ≠ "" ∧ '/' ∉ step.toList ∧ ∀ c ∈ step.toList, c ∈ path.toList := by
  obtain ⟨hstep, hne⟩ := List.mem_filter.1 h
  obtain ⟨part, hpart, rfl⟩ := List.mem_map.1 hstep
  rw [String.toList_ofList]
  obtain ⟨hslash, hsub⟩ := of_mem_splitOn hpart
  exact ⟨by simpa using hne, hslash, fun _ hc => hsub hc⟩

theorem components_folder_append (hfolder : EndsFolder folder) (hname : '/' ∉ name)
    (hne : name ≠ []) (hdot : name ≠ ['.']) :
    components (String.ofList (folder ++ name)) =
      components (String.ofList folder) ++ [String.ofList name] := by
  have hkeep : String.ofList name ≠ "." := by
    rwa [Ne, ← String.toList_inj, String.toList_ofList]
  rw [components, steps_folder_append hfolder hname hne, List.filter_append, components]
  simp [hkeep]

inductive IsTrailing : List Char → Prop where
  | nil : IsTrailing []
  | slash {s : List Char} : IsTrailing s → IsTrailing ('/' :: s)
  | here {s : List Char} : IsTrailing s → IsTrailing ('/' :: '.' :: s)

theorem IsTrailing.append {s t : List Char} (hs : IsTrailing s) (ht : IsTrailing t) :
    IsTrailing (s ++ t) := by
  induction hs with
  | nil => exact ht
  | slash _ ih => exact .slash ih
  | here _ ih => exact .here ih

theorem dropTrailing_append (h : IsTrailing trailing) (rest : List Char) :
    dropTrailing (trailing.reverse ++ rest) = dropTrailing rest := by
  induction h generalizing rest with
  | nil => rfl
  | slash _ ih =>
      rw [List.reverse_cons, List.append_assoc, ih]
      rfl
  | here _ ih =>
      rw [List.reverse_cons, List.reverse_cons, List.append_assoc, List.append_assoc, ih]
      rfl

theorem dropTrailing_eq_self (hname : '/' ∉ name) (hne : name ≠ []) (hdot : name ≠ ['.'])
    (rest : List Char) : dropTrailing (name ++ rest) = name ++ rest := by
  cases name with
  | nil => exact absurd rfl hne
  | cons a name =>
      simp only [List.mem_cons, not_or] at hname
      cases name with
      | nil =>
          have ha : a ≠ '.' := fun h => hdot (by rw [h])
          unfold dropTrailing
          split <;> simp_all
      | cons b name =>
          simp only [List.mem_cons, not_or] at hname
          unfold dropTrailing
          split <;> simp_all

theorem exists_trailing (s : List Char) :
    ∃ trailing, s = trailing.reverse ++ dropTrailing s ∧
      (dropTrailing s ≠ [] → IsTrailing trailing) := by
  fun_induction dropTrailing s with
  | case1 r ih =>
      obtain ⟨t, ht, htrailing⟩ := ih
      refine ⟨t ++ ['/'], ?_, fun h => (htrailing h).append (.slash .nil)⟩
      rw [List.reverse_append, List.reverse_singleton, List.append_assoc, ← ht]
      rfl
  | case2 r ih =>
      obtain ⟨t, ht, htrailing⟩ := ih
      refine ⟨t ++ ['/', '.'], ?_, fun h => (htrailing h).append (.here .nil)⟩
      rw [List.reverse_append, List.append_assoc, ← ht]
      rfl
  | case3 => exact ⟨['.'], rfl, fun h => absurd rfl h⟩
  | case4 r => exact ⟨[], rfl, fun _ => .nil⟩

namespace DottedName

structure WellFormed (d : DottedName) : Prop where
  folder : EndsFolder d.folder
  stem : d.stem ≠ [] ∧ '/' ∉ d.stem
  ext : '.' ∉ d.ext ∧ '/' ∉ d.ext
  notUp : d.stem = ['.'] → d.ext ≠ []

def spelling (d : DottedName) : List Char := d.folder ++ (d.stem ++ '.' :: d.ext)

structure Spells (d : DottedName) (trailing path : List Char) : Prop extends d.WellFormed where
  text : path = d.spelling ++ trailing
  isTrailing : IsTrailing trailing
  isEnd : d.isEnd = trailing.isEmpty

theorem WellFormed.slash_not_mem (h : d.WellFormed) : '/' ∉ d.stem ++ '.' :: d.ext := by
  simp [h.stem.2, h.ext.2]

theorem reverse_spelling (d : DottedName) :
    d.spelling.reverse = (d.ext.reverse ++ '.' :: d.stem.reverse) ++ d.folder.reverse := by
  simp [spelling]

theorem WellFormed.ne_dots (h : d.WellFormed) :
    d.ext.reverse ++ '.' :: d.stem.reverse ≠ ['.', '.'] := by
  have hreverse : d.ext.reverse ++ '.' :: d.stem.reverse = (d.stem ++ '.' :: d.ext).reverse := by
    simp
  rw [hreverse, Ne, List.reverse_eq_iff]
  intro heq
  obtain ⟨c, stem, hstem⟩ := List.exists_cons_of_ne_nil h.stem.1
  rw [hstem, List.cons_append] at heq
  obtain ⟨rfl, heq⟩ := List.cons.inj heq
  cases stem with
  | nil => exact h.notUp hstem (by simpa using heq)
  | cons c' stem => simp at heq

end DottedName

theorem dottedName?_eq_some_iff :
    dottedName? path = some d ↔ d.WellFormed ∧ dropTrailing path.reverse = d.spelling.reverse ∧
      d.isEnd = (d.spelling.length == path.length) := by
  constructor
  -- The path is read backwards: the name is what stands before the first slash, and its extension
  -- what stands before the first dot of the name.
  · intro h
    obtain ⟨name, folder, hback, hname, hfolder⟩ :=
      exists_append_stops (fun c => decide (c ≠ '/')) (dropTrailing path.reverse)
    obtain ⟨ext, rest, rfl, hext, hrest⟩ := exists_append_stops (fun c => decide (c ≠ '.')) name
    unfold dottedName? at h
    dsimp only at h
    rw [hback, takeWhile_append_of_stops hname hfolder, dropWhile_append_of_stops hname hfolder,
      takeWhile_append_of_stops hext hrest, dropWhile_append_of_stops hext hrest] at h
    split at h
    next c stem =>
      split at h
      next => cases h
      next hup =>
        obtain rfl := Option.some.inj h
        have hslash : '/' ∉ ext ++ '.' :: c :: stem := fun hmem => by simpa using hname '/' hmem
        have hdot : '.' ∉ ext := fun hmem => by simpa using hext '.' hmem
        simp only [List.mem_append, List.mem_cons, not_or] at hslash
        have hspelling := DottedName.reverse_spelling
          ⟨folder.reverse, (c :: stem).reverse, ext.reverse,
            (ext ++ '.' :: c :: stem ++ folder).length == path.length⟩
        simp only [List.reverse_reverse] at hspelling
        refine ⟨⟨endsFolder_reverse hfolder, by simp [hslash], by simp [hslash, hdot], ?_⟩,
          hback.trans hspelling.symm, ?_⟩
        · intro hstem hnone
          rw [List.reverse_eq_iff] at hstem hnone
          exact hup (by rw [hstem, hnone]; rfl)
        · have hlength := congrArg List.length hspelling
          rw [List.length_reverse] at hlength
          rw [hlength]
    next => cases h
  · rintro ⟨hd, hback, hend⟩
    have hslash : ∀ c ∈ d.ext.reverse ++ '.' :: d.stem.reverse, decide (c ≠ '/') = true := by
      have hreverse := ne_slash_of_mem_reverse hd.slash_not_mem
      simpa using hreverse
    have hext : ∀ c ∈ d.ext.reverse, decide (c ≠ '.') = true := by
      intro c hc
      have hne : c ≠ '.' := fun heq => hd.ext.1 (heq ▸ List.mem_reverse.1 hc)
      exact decide_eq_true hne
    have hdot : Stops (fun c => decide (c ≠ '.')) ('.' :: d.stem.reverse) :=
      stops_cons (by decide) _
    have hfolder := hd.folder.stops_reverse
    obtain ⟨c, stem, hstem⟩ : ∃ c stem, d.stem.reverse = c :: stem :=
      List.exists_cons_of_ne_nil (by simpa using hd.stem.1)
    unfold dottedName?
    dsimp only
    rw [hback, List.length_reverse, ← hend, d.reverse_spelling,
      takeWhile_append_of_stops hslash hfolder, dropWhile_append_of_stops hslash hfolder,
      takeWhile_append_of_stops hext hdot, dropWhile_append_of_stops hext hdot]
    have hne := hd.ne_dots
    rw [hstem] at hne ⊢
    refine (if_neg hne).trans ?_
    rw [← hstem, List.reverse_reverse, List.reverse_reverse, List.reverse_reverse]

theorem length_beq_length_append (s trailing : List Char) :
    (s.length == (s ++ trailing).length) = trailing.isEmpty := by
  rw [Bool.eq_iff_iff, beq_iff_eq, List.isEmpty_iff, ← List.length_eq_zero_iff, List.length_append]
  omega

theorem dottedName?_of_spells (h : d.Spells trailing path) : dottedName? path = some d := by
  refine dottedName?_eq_some_iff.2 ⟨h.toWellFormed, ?_, ?_⟩
  · have hslash : '/' ∉ d.ext.reverse ++ '.' :: d.stem.reverse := by
      simp [h.stem.2, h.ext.2]
    have hdot : d.ext.reverse ++ '.' :: d.stem.reverse ≠ ['.'] := by
      intro heq
      have hlength := congrArg List.length heq
      have hpos := List.length_pos_iff.2 h.stem.1
      simp only [List.length_append, List.length_cons, List.length_reverse, List.length_nil]
        at hlength
      omega
    rw [h.text, List.reverse_append, dropTrailing_append h.isTrailing, d.reverse_spelling]
    exact dropTrailing_eq_self hslash (by simp) hdot _
  · rw [h.isEnd, h.text, length_beq_length_append]

theorem exists_spells (h : dottedName? path = some d) : ∃ trailing, d.Spells trailing path := by
  obtain ⟨hd, hback, hend⟩ := dottedName?_eq_some_iff.1 h
  obtain ⟨trailing, htext, htrailing⟩ := exists_trailing path.reverse
  have hpath : path = d.spelling ++ trailing := by
    rw [hback, ← List.reverse_append] at htext
    exact List.reverse_inj.1 htext
  have hne : dropTrailing path.reverse ≠ [] := by
    rw [hback, d.reverse_spelling]
    simp
  refine ⟨trailing, hd, hpath, htrailing hne, ?_⟩
  rw [hend, hpath, length_beq_length_append]

theorem dottedName?_folder_above (hfolder : EndsFolder folder) :
    dottedName? (folder ++ ['.', '.']) = none := by
  have hback : dropTrailing (folder ++ ['.', '.']).reverse = ['.', '.'] ++ folder.reverse := by
    rw [List.reverse_append]
    exact dropTrailing_eq_self (by decide) (by decide) (by decide) _
  have hname : (dropTrailing (folder ++ ['.', '.']).reverse).takeWhile
      (fun c => decide (c ≠ '/')) = ['.', '.'] := by
    rw [hback, takeWhile_append_of_stops (by simp) hfolder.stops_reverse]
  unfold dottedName?
  dsimp only
  rw [hname]
  rfl

end SchemaDiagram.Path

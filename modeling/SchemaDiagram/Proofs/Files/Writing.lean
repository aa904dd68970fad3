import Mathlib.Data.List.Basic
import SchemaDiagram.Files.Workspace

namespace SchemaDiagram

theorem bind_eq_ok_iff {ε α β : Type} {x : Except ε α} {f : α → Except ε β} {b : β} :
    x >>= f = .ok b ↔ ∃ a, x = .ok a ∧ f a = .ok b := by
  cases x with
  | error e => simp [bind, Except.bind]
  | ok a => simp [bind, Except.bind]

namespace Workspace

variable {w w' : Workspace} {at_ here there : Location} {path : String} {content : ByteArray}

theorem walk_append (w : Workspace) (here : Location) (a b : List String) :
    w.walk here (a ++ b) = w.walk here a >>= fun there => w.walk there b := by
  induction a generalizing here with
  | nil => rfl
  | cons s a ih =>
      rw [List.cons_append, walk, walk]
      cases w.entryAt? here with
      | none => rfl
      | some entry =>
          cases entry with
          | file c x => rfl
          | folder =>
              by_cases hlimit : nameLimit < s.utf8ByteSize
              · simp only [if_pos hlimit]
                rfl
              · simpa only [if_neg hlimit] using ih (step here s)

theorem walk_eq_ok_of_folders
    (h : ∀ l, w.entryAt? l = some .folder → w'.entryAt? l = some .folder) {steps : List String}
    (hwalk : w.walk here steps = .ok there) : w'.walk here steps = .ok there := by
  induction steps generalizing here with
  | nil => exact hwalk
  | cons s steps ih =>
      rw [walk] at hwalk ⊢
      split at hwalk
      next => cases hwalk
      next => cases hwalk
      next hfolder =>
        rw [h here hfolder]
        split at hwalk
        next => cases hwalk
        next hlimit =>
          rw [if_neg hlimit]
          exact ih hwalk

theorem dropLast_append_toList_getLast? (l : List String) :
    l.dropLast ++ l.getLast?.toList = l := by
  cases h : l.getLast? with
  | none => simp [List.getLast?_eq_none_iff.1 h]
  | some s => exact List.dropLast_append_getLast? s h

theorem writable_eq_ok (h : w.writable path = .ok at_) :
    w.locate path = .ok at_ ∧ Path.namesFolder path = false ∧ w.entryAt? at_ ≠ some .folder := by
  unfold writable at h
  obtain ⟨start, hstart, h⟩ := bind_eq_ok_iff.1 h
  obtain ⟨folder, hfolder, h⟩ := bind_eq_ok_iff.1 h
  split at h
  next => cases h
  next => cases h
  next =>
    split at h
    next => cases h
    next hnames =>
      obtain ⟨last, hlast, h⟩ := bind_eq_ok_iff.1 h
      split at h
      next => cases h
      next => cases h
      next hentry =>
        obtain rfl : last = at_ := Except.ok.inj h
        refine ⟨?_, Bool.eq_false_iff.2 hnames, hentry⟩
        rw [locate, hstart, ← dropLast_append_toList_getLast? (Path.steps path)]
        refine bind_eq_ok_iff.2 ⟨start, rfl, ?_⟩
        rw [walk_append]
        exact bind_eq_ok_iff.2 ⟨folder, hfolder, hlast⟩

theorem write_eq_ok_iff :
    w.write path content = .ok w' ↔
      ∃ at_, w.writable path = .ok at_ ∧ w' = w.put at_ (.file content (w.isExecutable at_)) := by
  rw [write, bind_eq_ok_iff]
  refine exists_congr fun at_ => and_congr_right fun _ => ?_
  rw [isExecutable, eq_comm (a := w')]
  split <;> simp_all

theorem current_put (w : Workspace) (at_ : Location) (e : FileEntry) :
    (w.put at_ e).current = w.current := by
  unfold put
  split <;> rfl

theorem entryAt?_put_eq_folder_iff (h : w.entryAt? at_ ≠ some .folder) (c : ByteArray) (x : Bool)
    (l : Location) :
    (w.put at_ (.file c x)).entryAt? l = some .folder ↔ w.entryAt? l = some .folder := by
  by_cases hl : l = at_
  · subst hl
    have hne : l ≠ [] := by
      rintro rfl
      exact h rfl
    rw [entryAt?_put_self w _ hne]
    exact iff_of_false (fun heq => nomatch heq) h
  · rw [entryAt?_put_of_ne w _ hl]

theorem locate_put_eq_ok_iff (h : w.entryAt? at_ ≠ some .folder) (c : ByteArray) (x : Bool) :
    (w.put at_ (.file c x)).locate path = .ok there ↔ w.locate path = .ok there := by
  have hstart : (w.put at_ (.file c x)).start path = w.start path := by
    unfold start
    rw [current_put]
  rw [locate, locate, hstart, bind_eq_ok_iff, bind_eq_ok_iff]
  refine exists_congr fun here => and_congr_right fun _ => ⟨?_, ?_⟩
  · exact walk_eq_ok_of_folders fun l => (entryAt?_put_eq_folder_iff h c x l).1
  · exact walk_eq_ok_of_folders fun l => (entryAt?_put_eq_folder_iff h c x l).2

theorem find_eq_ok_iff {entry : FileEntry} :
    w.find path = .ok (there, entry) ↔
      w.locate path = .ok there ∧ w.entryAt? there = some entry ∧
        (entry = .folder ∨ Path.namesFolder path = false) := by
  rw [find, bind_eq_ok_iff]
  constructor
  · rintro ⟨l, hl, h⟩
    split at h
    next => cases h
    next hentry =>
      cases h
      exact ⟨hl, hentry, .inl rfl⟩
    next c x hentry =>
      split at h
      next => cases h
      next hnames =>
        cases h
        exact ⟨hl, hentry, .inr (Bool.eq_false_iff.2 hnames)⟩
  · rintro ⟨hl, hentry, h⟩
    refine ⟨there, hl, ?_⟩
    rw [hentry]
    cases entry with
    | folder => rfl
    | file c x => simp [h.resolve_left (fun heq => nomatch heq)]

theorem find_put_eq_ok_iff (h : w.entryAt? at_ ≠ some .folder) (c : ByteArray) (x : Bool)
    (hne : there ≠ at_) {entry : FileEntry} :
    (w.put at_ (.file c x)).find path = .ok (there, entry) ↔ w.find path = .ok (there, entry) := by
  rw [find_eq_ok_iff, find_eq_ok_iff, locate_put_eq_ok_iff h, entryAt?_put_of_ne w _ hne]

structure Rewrites (before after : Workspace) (path : String) (content : ByteArray) : Prop where
  read : after.read path = .ok content
  elsewhere : ∃ at_, before.locate path = .ok at_ ∧ ∀ other, other ≠ at_ →
    after.entryAt? other = before.entryAt? other ∧
      ∀ p entry, after.find p = .ok (other, entry) ↔ before.find p = .ok (other, entry)

theorem rewrites_of_write (h : w.write path content = .ok w') : w.Rewrites w' path content := by
  obtain ⟨at_, hwritable, rfl⟩ := write_eq_ok_iff.1 h
  obtain ⟨hlocate, hnames, hentry⟩ := writable_eq_ok hwritable
  have hne : at_ ≠ [] := by
    rintro rfl
    exact hentry rfl
  constructor
  case read =>
    have hfind := find_eq_ok_iff.2 ⟨(locate_put_eq_ok_iff hentry content (w.isExecutable at_)).2
      hlocate, entryAt?_put_self w _ hne, .inr hnames⟩
    rw [read, hfind]
    rfl
  case elsewhere =>
    refine ⟨at_, hlocate, fun other hother => ⟨entryAt?_put_of_ne w _ hother, fun p entry => ?_⟩⟩
    exact find_put_eq_ok_iff hentry content _ hother

end Workspace

end SchemaDiagram

import SchemaDiagram.Proofs.Files.Writing

namespace SchemaDiagram

theorem fromUTF8?_toUTF8 (text : String) : String.fromUTF8? text.toUTF8 = some text :=
  dif_pos text.isValidUTF8

namespace Workspace

variable {w : Workspace} {at_ : Location} {path text : String} {entry : FileEntry}

theorem start_eq_ok_iff :
    w.start path = .ok at_ ↔ '\x00' ∉ path.toList ∧ path ≠ "" ∧ fits path = true ∧
      at_ = if Path.isAbsolute path then [] else w.current := by
  unfold start
  split
  next hnul => exact iff_of_false (fun h => nomatch h) (fun h => h.1 (by simpa using hnul))
  next hnul =>
    split
    next hempty => exact iff_of_false (fun h => nomatch h) (fun h => h.2.1 hempty)
    next hempty =>
      split
      next hfits =>
        exact iff_of_false (fun h => nomatch h) (fun h => by simp [h.2.2.1] at hfits)
      next hfits =>
        have hnul' : '\x00' ∉ path.toList := by simpa using hnul
        have hfits' : fits path = true := by simpa using hfits
        rw [Except.ok.injEq, eq_comm]
        exact ⟨fun h => ⟨hnul', hempty, hfits', h⟩, fun h => h.2.2.2⟩

theorem fits_of_start (h : w.start path = .ok at_) : fits path = true :=
  (start_eq_ok_iff.1 h).2.2.1

theorem fits_of_find (h : w.find path = .ok (at_, entry)) : fits path = true := by
  obtain ⟨hlocate, _⟩ := find_eq_ok_iff.1 h
  obtain ⟨here, hstart, _⟩ := bind_eq_ok_iff.1 hlocate
  exact fits_of_start hstart

theorem read_eq_ok_iff {content : ByteArray} :
    w.read path = .ok content ↔ ∃ at_ x, w.find path = .ok (at_, .file content x) := by
  rw [read, bind_eq_ok_iff]
  constructor
  · rintro ⟨⟨at_, entry⟩, hfind, h⟩
    cases entry with
    | folder => cases h
    | file c x =>
        obtain rfl : c = content := Except.ok.inj h
        exact ⟨at_, x, hfind⟩
  · rintro ⟨at_, x, hfind⟩
    exact ⟨(at_, .file content x), hfind, rfl⟩

theorem readText_eq_ok_iff :
    w.readText path = .ok text ↔ ∃ at_ x, w.find path = .ok (at_, .file text.toUTF8 x) := by
  rw [readText, bind_eq_ok_iff, ← read_eq_ok_iff]
  constructor
  · rintro ⟨content, hread, h⟩
    split at h
    next t ht =>
      obtain rfl : t = text := Except.ok.inj h
      unfold String.fromUTF8? at ht
      split at ht
      next =>
        obtain rfl := Option.some.inj ht
        exact hread
      next => cases ht
    next => cases h
  · intro hread
    exact ⟨text.toUTF8, hread, by rw [fromUTF8?_toUTF8]⟩

theorem fits_of_readText (h : w.readText path = .ok text) : fits path = true := by
  obtain ⟨_, _, hfind⟩ := readText_eq_ok_iff.1 h
  exact fits_of_find hfind

end Workspace

end SchemaDiagram

import Mathlib.Tactic.SplitIfs
import SchemaDiagram.Proofs.Json.Grammar

namespace SchemaDiagram.JsonValue

theorem codeUnit?_codeUnit {n : Nat} (h : n < 0x20) : codeUnit? (codeUnit n) = some n := by
  have hall : ∀ n < 0x20, codeUnit? (codeUnit n) = some n := by decide +kernel
  exact hall n h

theorem spellsChar_short {e c d : Char} (hc : c = d) (h : (e, d) ∈ shortEscapes) :
    SpellsChar ['\\', e] c :=
  hc ▸ .escaped (.short h)

theorem spellsChar_escapeChar (c : Char) : SpellsChar (escapeChar c) c := by
  unfold escapeChar
  split_ifs with hquote hbackslash hback htab hline hform hreturn hcontrol
  · exact spellsChar_short hquote (by decide)
  · exact spellsChar_short hbackslash (by decide)
  · exact spellsChar_short hback (by decide)
  · exact spellsChar_short htab (by decide)
  · exact spellsChar_short hline (by decide)
  · exact spellsChar_short hform (by decide)
  · exact spellsChar_short hreturn (by decide)
  · have hunit := Escapes.unit (codeUnit?_codeUnit hcontrol) c.valid
    rw [Char.ofNat_toNat] at hunit
    exact .escaped hunit
  · exact .plain (by simp [isPlain, hquote, hbackslash, Nat.not_lt.1 hcontrol])

theorem spellsText_string (w : String) : SpellsText (string w).toList w := by
  refine ⟨w.toList.map escapeChar, ?_, ?_⟩
  · rw [List.forall₂_map_left_iff]
    exact List.forall₂_same.2 fun c _ => spellsChar_escapeChar c
  · rw [string, String.toList_ofList, List.flatMap_def]
    rfl

section Listed

variable {α : Type} {Entry : List Char → α → Prop} {l : List α} {entries : List String}

theorem isGap_indentation (depth : Nat) : IsGap (indentation depth).toList := by
  intro c hc
  rw [indentation, String.toList_ofList] at hc
  rw [List.eq_of_mem_replicate hc]
  decide

theorem isGap_append {s t : List Char} (hs : IsGap s) (ht : IsGap t) : IsGap (s ++ t) :=
  List.forall_mem_append.2 ⟨hs, ht⟩

theorem isGap_newline : IsGap ['\n'] := List.forall_mem_singleton.2 (by decide)

theorem isGap_space : IsGap [' '] := List.forall_mem_singleton.2 (by decide)

theorem listed_lines {gap behind : List Char} {a : α} {e : String} {es : List String}
    (hgap : IsGap gap) (hbehind : IsGap behind) (depth : Nat) (he : Entry e.toList a)
    (h : List.Forall₂ (fun e a => Entry e.toList a) es l) :
    Listed Entry
      (gap ++ ((",\n".intercalate ((e :: es).map (indentation depth ++ ·))).toList ++ behind))
      (a :: l) := by
  induction h generalizing gap a e with
  | nil =>
      have hone := Listed.one (.mk (isGap_append hgap (isGap_indentation depth)) he hbehind)
      simpa using hone
  | cons he' _ ih =>
      have hentry :=
        Padded.mk (isGap_append hgap (isGap_indentation depth)) he (List.forall_mem_nil _)
      have hmore := Listed.more hentry (ih isGap_newline he')
      simpa using hmore

theorem enclose_listed (opening closing : String) (depth : Nat)
    (h : List.Forall₂ (fun e a => Entry e.toList a) entries l) :
    ∃ s, Listed Entry s l ∧
      (enclose opening closing depth entries).toList = opening.toList ++ (s ++ closing.toList) := by
  cases h with
  | nil => exact ⟨[], .none (List.forall_mem_nil _), by rw [enclose, String.toList_append]; rfl⟩
  | cons he h =>
      have hbehind := isGap_append isGap_newline (isGap_indentation depth)
      refine ⟨_, listed_lines isGap_newline hbehind (depth + 1) he h, ?_⟩
      simp [enclose]

end Listed

mutual

theorem spells_pretty (depth : Nat) : ∀ v : JsonValue, Spells (pretty depth v).toList v
  | .null => by rw [pretty]; exact .null
  | .bool true => by rw [pretty]; exact .true
  | .bool false => by rw [pretty]; exact .false
  | .text w => by
      rw [pretty]
      exact .text (spellsText_string w)
  | .array items => by
      obtain ⟨s, hs, htext⟩ := enclose_listed "[" "]" depth (spells_prettyItems (depth + 1) items)
      rw [pretty, htext]
      exact .array hs
  | .object members => by
      obtain ⟨s, hs, htext⟩ :=
        enclose_listed "\x7b" "\x7d" depth (spells_prettyMembers (depth + 1) members)
      rw [pretty, htext]
      exact .object hs

theorem spells_prettyItems (depth : Nat) : ∀ items : List JsonValue,
    List.Forall₂ (fun e v => Spells e.toList v) (prettyItems depth items) items
  | [] => by rw [prettyItems]; exact .nil
  | v :: rest => by
      rw [prettyItems]
      exact .cons (spells_pretty depth v) (spells_prettyItems depth rest)

theorem spells_prettyMembers (depth : Nat) : ∀ members : List (String × JsonValue),
    List.Forall₂ (fun e m => SpellsMember e.toList m) (prettyMembers depth members) members
  | [] => by rw [prettyMembers]; exact .nil
  | (k, v) :: rest => by
      have hmember := SpellsMember.named (spellsText_string k) (List.forall_mem_nil _)
        isGap_space (spells_pretty depth v)
      rw [prettyMembers]
      refine .cons ?_ (spells_prettyMembers depth rest)
      rw [String.toList_append, String.toList_append, List.append_assoc]
      exact hmember

end

end SchemaDiagram.JsonValue

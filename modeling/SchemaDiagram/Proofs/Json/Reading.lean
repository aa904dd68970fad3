import SchemaDiagram.Proofs.Json.Grammar
import SchemaDiagram.Proofs.Text.Span

namespace SchemaDiagram.JsonValue

open Text

/-- Whatever follows a text of `a`, nothing else can be read there, nor more or less of it. -/
def ReadOnce {α : Type} (Entry : List Char → α → Prop) (a : α) : Prop :=
  ∀ ⦃b : α⦄ ⦃s t r r' : List Char⦄, Entry s a → Entry t b → s ++ r = t ++ r' → a = b ∧ r = r'

theorem length_of_codeUnit? {q : List Char} {n : Nat} (h : codeUnit? q = some n) :
    q.length = 4 := by
  unfold codeUnit? at h
  split at h
  next hlength => exact hlength
  next => cases h

theorem codeUnit?_inj {q q' r r' : List Char} {n n' : Nat} (h : codeUnit? q = some n)
    (h' : codeUnit? q' = some n') (heq : q ++ r = q' ++ r') : n = n' ∧ r = r' := by
  have hlength := (length_of_codeUnit? h).trans (length_of_codeUnit? h').symm
  obtain ⟨rfl, hrest⟩ := List.append_inj heq hlength
  exact ⟨Option.some.inj (h.symm.trans h'), hrest⟩

theorem shortEscapes_inj {e c d : Char} (h : (e, c) ∈ shortEscapes) (h' : (e, d) ∈ shortEscapes) :
    c = d := by
  have hall : ∀ p ∈ shortEscapes, ∀ p' ∈ shortEscapes, p.1 = p'.1 → p.2 = p'.2 := by decide
  exact hall _ h _ h' rfl

theorem not_mem_shortEscapes_u (c : Char) : ('u', c) ∉ shortEscapes := by
  have hall : ∀ p ∈ shortEscapes, p.1 ≠ 'u' := by decide
  exact fun h => hall _ h rfl

theorem not_surrogate_of_isValidChar {n : Nat} (h : n.isValidChar) :
    ¬ (0xD800 ≤ n ∧ n < 0xDC00) := by
  unfold Nat.isValidChar at h
  omega

theorem readOnce_escape (c : Char) : ReadOnce Escapes c := by
  intro d s t r r' hs ht heq
  cases hs with
  | short hc =>
      cases ht with
      | short hd =>
          obtain ⟨rfl, hrest⟩ := List.cons.inj heq
          exact ⟨shortEscapes_inj hc hd, hrest⟩
      | unit _ _ =>
          obtain ⟨rfl, -⟩ := List.cons.inj heq
          exact absurd hc (not_mem_shortEscapes_u c)
      | pair _ _ _ _ =>
          obtain ⟨rfl, -⟩ := List.cons.inj heq
          exact absurd hc (not_mem_shortEscapes_u c)
  | unit hq hvalid =>
      cases ht with
      | short hd =>
          obtain ⟨rfl, -⟩ := List.cons.inj heq
          exact absurd hd (not_mem_shortEscapes_u d)
      | unit hq' _ =>
          obtain ⟨rfl, hrest⟩ := codeUnit?_inj hq hq' (List.cons.inj heq).2
          exact ⟨rfl, hrest⟩
      | pair hq' _ hhigh _ =>
          simp only [List.cons_append, List.append_assoc] at heq
          obtain ⟨rfl, -⟩ := codeUnit?_inj hq hq' (List.cons.inj heq).2
          exact absurd hhigh (not_surrogate_of_isValidChar hvalid)
  | pair hhq hlq hhigh _ =>
      simp only [List.cons_append, List.append_assoc] at heq
      cases ht with
      | short hd =>
          obtain ⟨rfl, -⟩ := List.cons.inj heq
          exact absurd hd (not_mem_shortEscapes_u d)
      | unit hq hvalid =>
          obtain ⟨rfl, -⟩ := codeUnit?_inj hhq hq (List.cons.inj heq).2
          exact absurd hhigh (not_surrogate_of_isValidChar hvalid)
      | pair hhq' hlq' _ _ =>
          simp only [List.cons_append, List.append_assoc] at heq
          obtain ⟨rfl, hlow⟩ := codeUnit?_inj hhq hhq' (List.cons.inj heq).2
          obtain ⟨rfl, hrest⟩ := codeUnit?_inj hlq hlq' (List.cons.inj (List.cons.inj hlow).2).2
          exact ⟨rfl, hrest⟩

theorem readOnce_char (c : Char) : ReadOnce SpellsChar c := by
  intro d s t r r' hs ht heq
  cases hs with
  | plain hc =>
      cases ht with
      | plain _ => exact List.cons.inj heq
      | escaped _ =>
          obtain ⟨rfl, -⟩ := List.cons.inj heq
          cases hc
  | escaped hc =>
      cases ht with
      | plain hd =>
          obtain ⟨rfl, -⟩ := List.cons.inj heq
          cases hd
      | escaped hd => exact readOnce_escape c hc hd (List.cons.inj heq).2

theorem quote_cons_ne {s r r' : List Char} {c : Char} (h : SpellsChar s c) :
    '"' :: r ≠ s ++ r' := by
  intro heq
  cases h with
  | plain hc =>
      obtain ⟨rfl, -⟩ := List.cons.inj heq
      cases hc
  | escaped _ => exact absurd (List.cons.inj heq).1 (by decide)

theorem spellsChars_inj {cs ds r r' : List Char} {parts parts' : List (List Char)}
    (h : List.Forall₂ SpellsChar parts cs) (h' : List.Forall₂ SpellsChar parts' ds)
    (heq : parts.flatten ++ '"' :: r = parts'.flatten ++ '"' :: r') : cs = ds ∧ r = r' := by
  induction h generalizing ds parts' with
  | nil =>
      cases h' with
      | nil => exact ⟨rfl, (List.cons.inj heq).2⟩
      | cons hd _ =>
          rw [List.flatten_cons, List.append_assoc] at heq
          exact absurd heq (quote_cons_ne hd)
  | cons hc _ ih =>
      cases h' with
      | nil =>
          rw [List.flatten_cons, List.append_assoc] at heq
          exact absurd heq.symm (quote_cons_ne hc)
      | cons hd hds =>
          rw [List.flatten_cons, List.flatten_cons, List.append_assoc, List.append_assoc] at heq
          obtain ⟨rfl, htail⟩ := readOnce_char _ hc hd heq
          obtain ⟨rfl, hrest⟩ := ih hds htail
          exact ⟨rfl, hrest⟩

theorem readOnce_quoted (w : String) : ReadOnce SpellsText w := by
  rintro v s t r r' ⟨parts, hparts, rfl⟩ ⟨parts', hparts', rfl⟩ heq
  simp only [List.cons_append, List.append_assoc] at heq
  obtain ⟨hchars, hrest⟩ := spellsChars_inj hparts hparts' (List.cons.inj heq).2
  exact ⟨String.toList_injective hchars, hrest⟩

section Listed

variable {α : Type} {Entry : List Char → α → Prop} {a b : α} {l m : List α} {close : Char}
  {gap s t r r' : List Char}

def isBoundary (c : Char) : Bool := isGap c || c == ',' || c == ']' || c == '\x7d'

def BeginsEntry (s : List Char) : Prop := ∃ c r, s = c :: r ∧ isBoundary c = false

theorem stops_append_of_beginsEntry (h : BeginsEntry s) (r : List Char) :
    Stops isGap (s ++ r) := by
  obtain ⟨c, t, rfl, hc⟩ := h
  simp only [isBoundary, Bool.or_eq_false_iff] at hc
  exact stops_cons hc.1.1.1 (t ++ r)

theorem padded_inj (hE : ∀ {s a}, Entry s a → BeginsEntry s) (ha : ReadOnce Entry a)
    (hs : Padded Entry s a) (ht : Padded Entry t b) (hr : Stops isGap r) (hr' : Stops isGap r')
    (heq : s ++ r = t ++ r') : a = b ∧ r = r' := by
  obtain ⟨hbefore, hs, hbehind⟩ := hs
  obtain ⟨hbefore', ht, hbehind'⟩ := ht
  simp only [List.append_assoc] at heq
  obtain ⟨-, hentry⟩ := append_inj_of_stops hbefore hbefore'
    (stops_append_of_beginsEntry (hE hs) _) (stops_append_of_beginsEntry (hE ht) _) heq
  obtain ⟨hab, htail⟩ := ha hs ht hentry
  exact ⟨hab, (append_inj_of_stops hbehind hbehind' hr hr' htail).2⟩

theorem gap_ne_padded (hE : ∀ {s a}, Entry s a → BeginsEntry s) (hgap : IsGap gap)
    (hs : Padded Entry s a) (hr : Stops isGap (close :: r)) (hclose : isBoundary close = true) :
    gap ++ close :: r ≠ s ++ r' := by
  obtain ⟨hbefore, hs, -⟩ := hs
  intro heq
  simp only [List.append_assoc] at heq
  obtain ⟨-, hentry⟩ := append_inj_of_stops hgap hbefore hr
    (stops_append_of_beginsEntry (hE hs) _) heq
  obtain ⟨c, t, rfl, hc⟩ := hE hs
  obtain ⟨rfl, -⟩ := List.cons.inj hentry
  rw [hclose] at hc
  cases hc

theorem listed_inj (hE : ∀ {s a}, Entry s a → BeginsEntry s) (hl : ∀ a ∈ l, ReadOnce Entry a)
    (hclose : close = ']' ∨ close = '\x7d') (hs : Listed Entry s l) (ht : Listed Entry t m)
    (heq : s ++ close :: r = t ++ close :: r') : l = m ∧ r = r' := by
  have hboundary : isBoundary close = true := by rcases hclose with rfl | rfl <;> decide
  have hgap : isGap close = false := by rcases hclose with rfl | rfl <;> decide
  have hcomma : close ≠ ',' := by rcases hclose with rfl | rfl <;> decide
  have hend : ∀ r, Stops isGap (close :: r) := stops_cons hgap
  have hsep : ∀ r, Stops isGap (',' :: r) := stops_cons (by decide)
  -- On the first list. What follows an entry is a comma or the bracket, and no gap goes on into it.
  induction hs generalizing m t with
  | none h =>
      cases ht with
      | none h' =>
          have hrest := (append_inj_of_stops h h' (hend r) (hend r') heq).2
          exact ⟨rfl, (List.cons.inj hrest).2⟩
      | one h' => exact absurd heq (gap_ne_padded hE h h' (hend r) hboundary)
      | more h' _ =>
          rw [List.append_assoc] at heq
          exact absurd heq (gap_ne_padded hE h h' (hend r) hboundary)
  | one h =>
      have ha := hl _ List.mem_cons_self
      cases ht with
      | none h' => exact absurd heq.symm (gap_ne_padded hE h' h (hend r') hboundary)
      | one h' =>
          obtain ⟨rfl, hrest⟩ := padded_inj hE ha h h' (hend r) (hend r') heq
          exact ⟨rfl, (List.cons.inj hrest).2⟩
      | more h' _ =>
          rw [List.append_assoc] at heq
          have hrest := (padded_inj hE ha h h' (hend r) (hsep _) heq).2
          exact absurd (List.cons.inj hrest).1 hcomma
  | more h _ ih =>
      obtain ⟨ha, hl⟩ := List.forall_mem_cons.1 hl
      rw [List.append_assoc] at heq
      cases ht with
      | none h' => exact absurd heq.symm (gap_ne_padded hE h' h (hend r') hboundary)
      | one h' =>
          have hrest := (padded_inj hE ha h h' (hsep _) (hend r') heq).2
          exact absurd (List.cons.inj hrest).1.symm hcomma
      | more h' hlist' =>
          rw [List.append_assoc] at heq
          obtain ⟨rfl, hrest⟩ := padded_inj hE ha h h' (hsep _) (hsep _) heq
          obtain ⟨hlist, hrest⟩ := ih hl hlist' (List.cons.inj hrest).2
          exact ⟨congrArg _ hlist, hrest⟩

end Listed

def mark : JsonValue → Char
  | .null => 'n'
  | .bool true => 't'
  | .bool false => 'f'
  | .text _ => '"'
  | .array _ => '['
  | .object _ => '\x7b'

theorem not_isBoundary_mark (v : JsonValue) : isBoundary v.mark = false := by
  cases v with
  | bool b => cases b <;> rfl
  | _ => rfl

variable {s t r r' : List Char} {v w : JsonValue}

theorem eq_mark_cons_of_spells (h : Spells s v) : ∃ r, s = v.mark :: r := by
  cases h with
  | text h =>
      obtain ⟨parts, -, rfl⟩ := h
      exact ⟨_, rfl⟩
  | _ => exact ⟨_, rfl⟩

theorem beginsEntry_of_spells (h : Spells s v) : BeginsEntry s := by
  obtain ⟨r, rfl⟩ := eq_mark_cons_of_spells h
  exact ⟨v.mark, r, rfl, not_isBoundary_mark v⟩

theorem beginsEntry_of_spellsMember {m : String × JsonValue} (h : SpellsMember s m) :
    BeginsEntry s := by
  obtain ⟨⟨parts, -, rfl⟩, -, -, -⟩ := h
  exact ⟨'"', _, rfl, by decide⟩

theorem mark_eq_of_append_eq (hs : Spells s v) (ht : Spells t w) (heq : s ++ r = t ++ r') :
    v.mark = w.mark := by
  obtain ⟨s, rfl⟩ := eq_mark_cons_of_spells hs
  obtain ⟨t, rfl⟩ := eq_mark_cons_of_spells ht
  exact (List.cons.inj heq).1

theorem readOnce_null : ReadOnce Spells .null := by
  intro w s t r r' hs ht heq
  have hmark := mark_eq_of_append_eq hs ht heq
  cases hs
  cases ht with
  | null => exact ⟨rfl, List.append_cancel_left heq⟩
  | _ => simp [mark] at hmark

theorem readOnce_bool (b : Bool) : ReadOnce Spells (.bool b) := by
  intro w s t r r' hs ht heq
  have hmark := mark_eq_of_append_eq hs ht heq
  cases hs with
  | true =>
      cases ht with
      | true => exact ⟨rfl, List.append_cancel_left heq⟩
      | _ => simp [mark] at hmark
  | false =>
      cases ht with
      | false => exact ⟨rfl, List.append_cancel_left heq⟩
      | _ => simp [mark] at hmark

theorem readOnce_text (x : String) : ReadOnce Spells (.text x) := by
  intro w s t r r' hs ht heq
  have hmark := mark_eq_of_append_eq hs ht heq
  cases hs with
  | text hs =>
      cases ht with
      | text ht =>
          obtain ⟨rfl, hrest⟩ := readOnce_quoted x hs ht heq
          exact ⟨rfl, hrest⟩
      | _ => simp [mark] at hmark

theorem readOnce_array {items : List JsonValue} (h : ∀ v ∈ items, ReadOnce Spells v) :
    ReadOnce Spells (.array items) := by
  intro w s t r r' hs ht heq
  have hmark := mark_eq_of_append_eq hs ht heq
  cases hs with
  | array hs =>
      cases ht with
      | array ht =>
          simp only [List.cons_append, List.append_assoc, List.nil_append] at heq
          obtain ⟨rfl, hrest⟩ :=
            listed_inj beginsEntry_of_spells h (.inl rfl) hs ht (List.cons.inj heq).2
          exact ⟨rfl, hrest⟩
      | _ => simp [mark] at hmark

theorem readOnce_object {members : List (String × JsonValue)}
    (h : ∀ m ∈ members, ReadOnce SpellsMember m) : ReadOnce Spells (.object members) := by
  intro w s t r r' hs ht heq
  have hmark := mark_eq_of_append_eq hs ht heq
  cases hs with
  | object hs =>
      cases ht with
      | object ht =>
          simp only [List.cons_append, List.append_assoc, List.nil_append] at heq
          obtain ⟨rfl, hrest⟩ :=
            listed_inj beginsEntry_of_spellsMember h (.inr rfl) hs ht (List.cons.inj heq).2
          exact ⟨rfl, hrest⟩
      | _ => simp [mark] at hmark

theorem readOnce_member (k : String) (h : ReadOnce Spells v) : ReadOnce SpellsMember (k, v) := by
  intro m s t r r' hs ht heq
  obtain ⟨hkey, hbefore, hbehind, hs⟩ := hs
  obtain ⟨hkey', hbefore', hbehind', ht⟩ := ht
  simp only [List.append_assoc, List.cons_append] at heq
  obtain ⟨rfl, hcolon⟩ := readOnce_quoted k hkey hkey' heq
  have hstops : ∀ r, Stops isGap (':' :: r) := stops_cons (by decide)
  obtain ⟨-, hvalue⟩ := append_inj_of_stops hbefore hbefore' (hstops _) (hstops _) hcolon
  obtain ⟨-, hvalue⟩ := append_inj_of_stops hbehind hbehind'
    (stops_append_of_beginsEntry (beginsEntry_of_spells hs) _)
    (stops_append_of_beginsEntry (beginsEntry_of_spells ht) _) (List.cons.inj hvalue).2
  obtain ⟨rfl, hrest⟩ := h hs ht hvalue
  exact ⟨rfl, hrest⟩

mutual

theorem readOnce_value : ∀ v : JsonValue, ReadOnce Spells v
  | .null => readOnce_null
  | .bool b => readOnce_bool b
  | .text x => readOnce_text x
  | .array items => readOnce_array (readOnce_items items)
  | .object members => readOnce_object (readOnce_members members)

theorem readOnce_items : ∀ items : List JsonValue, ∀ v ∈ items, ReadOnce Spells v
  | [] => List.forall_mem_nil _
  | v :: rest => List.forall_mem_cons.2 ⟨readOnce_value v, readOnce_items rest⟩

theorem readOnce_members :
    ∀ members : List (String × JsonValue), ∀ m ∈ members, ReadOnce SpellsMember m
  | [] => List.forall_mem_nil _
  | (k, v) :: rest =>
      List.forall_mem_cons.2 ⟨readOnce_member k (readOnce_value v), readOnce_members rest⟩

end

theorem eq_of_isDocument {text : String} (h : IsDocument text v) (h' : IsDocument text w) : v = w :=
  (padded_inj beginsEntry_of_spells (readOnce_value v) h h' (stops_nil _) (stops_nil _) rfl).1

end SchemaDiagram.JsonValue

import SchemaDiagram.Proofs.Ddl.Segmentation

namespace SchemaDiagram.Ddl

variable {ls xs ys group : List String}

def IsStatement (group : List String) : Prop :=
  ∃ first rest, group = first :: rest ∧ IsStart first ∧ (∀ l ∈ rest, ¬ IsStart l) ∧
    ∀ l ∈ group.dropLast, ¬ IsCloser l

theorem IsStatement.startsStatement_of_mem_head? (h : IsStatement group) (r : List String) :
    ∀ l ∈ (group ++ r).head?, startsStatement l = true := by
  obtain ⟨first, rest, rfl, hstart, _⟩ := h
  intro l hl
  rw [← Option.mem_some.1 hl]
  exact startsStatement_iff.2 hstart

theorem extent_append (hstarts : ∀ l ∈ ls, startsStatement l = false)
    (hcloses : ∀ l ∈ ls.dropLast, closesStatement l = false)
    (hys : ∀ l ∈ ys.head?, startsStatement l = true) : extent (ls ++ ys) = ls.length := by
  induction ls with
  | nil =>
      cases ys with
      | nil => rfl
      | cons y ys => rw [List.nil_append, extent_cons, hys y rfl, if_pos rfl, List.length_nil]
  | cons l ls ih =>
      obtain ⟨hl, hls⟩ := List.forall_mem_cons.1 hstarts
      rw [List.cons_append, extent_cons, hl, if_neg Bool.false_ne_true, List.length_cons]
      cases ls with
      | nil =>
          rw [ih hls (fun _ h => nomatch h)]
          cases closesStatement l <;> rfl
      | cons m ls =>
          obtain ⟨hcloser, hinner⟩ := List.forall_mem_cons.1 hcloses
          rw [hcloser, if_neg Bool.false_ne_true, ih hls hinner]

theorem statements_append_of_isStatement (h : IsStatement group)
    (hys : ∀ l ∈ ys.head?, startsStatement l = true) :
    statements (group ++ ys) = group :: statements ys := by
  obtain ⟨first, rest, rfl, hfirst, hrest, hcloses⟩ := h
  have hstarts : ∀ l ∈ rest, startsStatement l = false :=
    fun l hl => startsStatement_eq_false_iff.2 (hrest l hl)
  have hinner : ∀ l ∈ rest.dropLast, closesStatement l = false := by
    intro l hl
    refine closesStatement_eq_false_iff.2 (hcloses l ?_)
    cases rest with
    | nil => cases hl
    | cons m rest => exact List.mem_cons_of_mem _ hl
  rw [List.cons_append, statements_cons_of_starts (startsStatement_iff.2 hfirst),
    extent_append hstarts hinner hys, List.take_left, statements_append_of_not_starts hstarts]

theorem statements_flatten {groups : List (List String)} (h : ∀ group ∈ groups, IsStatement group) :
    statements groups.flatten = groups := by
  induction groups with
  | nil => rfl
  | cons group groups ih =>
      obtain ⟨hgroup, hgroups⟩ := List.forall_mem_cons.1 h
      rw [List.flatten_cons, statements_append_of_isStatement hgroup, ih hgroups]
      cases groups with
      | nil => exact fun _ hl => nomatch hl
      | cons next groups =>
          exact (hgroups next List.mem_cons_self).startsStatement_of_mem_head? groups.flatten

def IsSettled (xs : List String) : Prop :=
  (∀ l ∈ xs, ¬ IsStart l) ∨
    ∃ before start behind, xs = before ++ start :: behind ∧ IsStart start ∧
      (∀ l ∈ behind, ¬ IsStart l) ∧ ∃ l ∈ behind, IsCloser l

theorem isSettled_cons_of_not_isStart {x : String} (hx : ¬ IsStart x) :
    IsSettled (x :: xs) ↔ IsSettled xs := by
  constructor
  · rintro (hnone | ⟨before, start, behind, heq, hstart, hbehind⟩)
    · exact .inl (List.forall_mem_cons.1 hnone).2
    · cases before with
      | nil =>
          obtain ⟨rfl, rfl⟩ := List.cons.inj heq
          exact absurd hstart hx
      | cons y before =>
          obtain ⟨rfl, rfl⟩ := List.cons.inj heq
          exact .inr ⟨before, start, behind, rfl, hstart, hbehind⟩
  · rintro (hnone | ⟨before, start, behind, rfl, hstart, hbehind⟩)
    · exact .inl (List.forall_mem_cons.2 ⟨hx, hnone⟩)
    · exact .inr ⟨x :: before, start, behind, rfl, hstart, hbehind⟩

theorem isSettled_cons_of_isStart {x : String} (hx : IsStart x) :
    IsSettled (x :: xs) ↔ (∃ l ∈ xs, IsStart l ∨ IsCloser l) ∧ IsSettled xs := by
  constructor
  · rintro (hnone | ⟨before, start, behind, heq, hstart, hbehind, hclose⟩)
    · exact absurd hx (hnone x List.mem_cons_self)
    · cases before with
      | nil =>
          obtain ⟨rfl, rfl⟩ := List.cons.inj heq
          obtain ⟨l, hl, hcloser⟩ := hclose
          exact ⟨⟨l, hl, .inr hcloser⟩, .inl hbehind⟩
      | cons y before =>
          obtain ⟨rfl, rfl⟩ := List.cons.inj heq
          have hmem : start ∈ before ++ start :: behind :=
            List.mem_append_right _ List.mem_cons_self
          exact ⟨⟨start, hmem, .inl hstart⟩,
            .inr ⟨before, start, behind, rfl, hstart, hbehind, hclose⟩⟩
  · rintro ⟨⟨l, hl, hmark⟩, hnone | ⟨before, start, behind, rfl, hstart, hbehind⟩⟩
    · have hcloser : IsCloser l := hmark.resolve_left (hnone l hl)
      exact .inr ⟨[], x, xs, rfl, hx, hnone, l, hl, hcloser⟩
    · exact .inr ⟨x :: before, start, behind, rfl, hstart, hbehind⟩

theorem extent_eq_zero_iff : extent ys = 0 ↔ ∀ l ∈ ys.head?, IsStart l := by
  cases ys with
  | nil => exact iff_of_true rfl (fun _ hl => nomatch hl)
  | cons y ys =>
      simp only [extent_cons, List.head?_cons, Option.mem_some_iff, forall_eq',
        ← startsStatement_iff]
      split
      · simp [*]
      · split <;> simp [*]

theorem take_extent_append_eq_iff :
    (xs ++ ys).take (extent (xs ++ ys)) = xs.take (extent xs) ↔
      extent ys = 0 ∨ ∃ l ∈ xs, IsStart l ∨ IsCloser l := by
  induction xs with
  | nil =>
      have hnil : ys = [] → extent ys = 0 := by
        rintro rfl
        rfl
      simpa [List.take_eq_nil_iff] using hnil
  | cons x xs ih =>
      rw [List.cons_append, extent_cons, extent_cons]
      simp only [List.exists_mem_cons_iff, ← startsStatement_iff, ← closesStatement_iff] at ih ⊢
      cases startsStatement x with
      | true => simp
      | false =>
          cases closesStatement x with
          | true => simp
          | false => simpa using ih

theorem statements_append_eq_iff :
    statements (xs ++ ys) = statements xs ++ statements ys ↔
      (∀ l ∈ ys.head?, IsStart l) ∨ IsSettled xs := by
  induction xs with
  | nil => exact iff_of_true rfl (.inr (.inl (fun _ hl => nomatch hl)))
  | cons x xs ih =>
      by_cases hx : IsStart x
      · have hstart := startsStatement_iff.2 hx
        rw [List.cons_append, statements_cons_of_starts hstart, statements_cons_of_starts hstart,
          List.cons_append, List.cons_eq_cons, List.cons_eq_cons, ih, take_extent_append_eq_iff,
          extent_eq_zero_iff, isSettled_cons_of_isStart hx, or_and_left, and_iff_right rfl]
      · have hstart := startsStatement_eq_false_iff.2 hx
        rw [List.cons_append, statements_cons_of_not_starts hstart,
          statements_cons_of_not_starts hstart, ih, isSettled_cons_of_not_isStart hx]

theorem statements_compose :
    (∀ xs ys, statements (xs ++ ys) = statements xs ++ statements ys ↔
      (∀ l ∈ ys.head?, IsStart l) ∨ IsSettled xs) ∧
      ∀ lines, statements (statements lines).flatten = statements lines :=
  ⟨fun _ _ => statements_append_eq_iff,
    fun _ => statements_flatten fun _ hgroup => shape_of_mem_statements hgroup⟩

end SchemaDiagram.Ddl

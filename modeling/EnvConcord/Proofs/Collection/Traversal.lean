import Mathlib.Data.List.Forall2

/-!
# Traversals that may stop

A traversal visits the items of a list in order and stops at the first item without a
result.  It ends well exactly if every item has a result, and its fault is that of the first
item that has one.  Two traversals whose steps agree come to outcomes that agree.
-/

namespace EnvConcord.Collection

variable {α β ε : Type*} {f : α → Except ε β}

theorem mapM_eq_ok_iff {items : List α} {results : List β} :
    items.mapM f = .ok results ↔
      List.Forall₂ (fun item result => f item = .ok result) items results := by
  induction items generalizing results with
  | nil => cases results <;> simp [pure, Except.pure]
  | cons item rest ih =>
      rw [List.mapM_cons]
      cases here : f item with
      | error fault => cases results <;> simp [bind, Except.bind, here]
      | ok result =>
          cases later : rest.mapM f with
          | error fault => cases results <;> simp [bind, Except.bind, ← ih, here, later]
          | ok more =>
              cases results <;> simp [bind, Except.bind, pure, Except.pure, ← ih, here, later]

theorem exists_mem_of_forall₂ {related : α → β → Prop} {items : List α} {results : List β}
    (pairs : List.Forall₂ related items results) {item : α} (mem : item ∈ items) :
    ∃ result ∈ results, related item result := by
  induction pairs with
  | nil => simp at mem
  | cons here _ ih =>
      rcases List.mem_cons.1 mem with rfl | later
      · exact ⟨_, List.mem_cons_self, here⟩
      · rcases ih later with ⟨result, result_mem, result_related⟩
        exact ⟨result, List.mem_cons_of_mem _ result_mem, result_related⟩

/-- Where exactly some items have a result, the results belong to these items in order. -/
theorem forall₂_filter_filterMap {related : α → β → Prop} {kept : α → Bool} {g : α → Option β}
    (items : List α)
    (results : ∀ item, kept item = true → ∃ result, g item = some result ∧ related item result)
    (none_else : ∀ item, kept item = false → g item = none) :
    List.Forall₂ related (items.filter kept) (items.filterMap g) := by
  induction items with
  | nil => exact .nil
  | cons item rest ih =>
      cases here : kept item with
      | true =>
          obtain ⟨result, result_eq, item_related⟩ := results item here
          rw [List.filter_cons_of_pos here, List.filterMap_cons_some result_eq]
          exact .cons item_related ih
      | false =>
          rw [List.filter_cons_of_neg (by simp [here]),
            List.filterMap_cons_none (none_else item here)]
          exact ih

/-- A traversal ends well exactly if every item has a result. -/
theorem exists_mapM_eq_ok_iff {items : List α} :
    (∃ results, items.mapM f = .ok results) ↔ ∀ item ∈ items, ∃ result, f item = .ok result := by
  induction items with
  | nil => simp [pure, Except.pure]
  | cons item rest ih =>
      rw [List.mapM_cons, List.forall_mem_cons, ← ih]
      cases here : f item with
      | error fault => simp [bind, Except.bind]
      | ok result =>
          cases later : rest.mapM f <;> simp [bind, Except.bind, pure, Except.pure]

/-- The fault of a traversal is that of the first item without a result. -/
theorem mapM_eq_error_iff {items : List α} {fault : ε} :
    items.mapM f = .error fault ↔
      ∃ before item after, items = before ++ item :: after ∧
        (∀ other ∈ before, ∃ result, f other = .ok result) ∧ f item = .error fault := by
  induction items with
  | nil => simp [pure, Except.pure]
  | cons item rest ih =>
      rw [List.mapM_cons]
      constructor
      · intro stopped
        cases here : f item with
        | error cause =>
            obtain rfl : cause = fault := by simpa [bind, Except.bind, here] using stopped
            exact ⟨[], item, rest, rfl, by simp, here⟩
        | ok result =>
            have later : rest.mapM f = .error fault := by
              cases later : rest.mapM f <;>
                simp_all [bind, Except.bind, pure, Except.pure]
            rcases ih.1 later with ⟨before, culprit, after, rfl, fine, culprit_fault⟩
            refine ⟨item :: before, culprit, after, rfl, ?_, culprit_fault⟩
            exact List.forall_mem_cons.2 ⟨⟨result, here⟩, fine⟩
      · rintro ⟨before, culprit, after, split, fine, culprit_fault⟩
        cases before with
        | nil =>
            obtain ⟨rfl, rfl⟩ := List.cons.inj split
            simp [bind, Except.bind, culprit_fault]
        | cons first before =>
            rw [List.cons_append, List.cons.injEq] at split
            rcases split with ⟨rfl, rest_eq⟩
            rcases (List.forall_mem_cons.1 fine) with ⟨⟨result, here⟩, fine⟩
            have later := ih.2 ⟨before, culprit, after, rest_eq, fine, culprit_fault⟩
            simp [bind, Except.bind, here, later]

/-! ## Two traversals -/

section Agreement

variable {α β γ δ ε : Type*} {faults : ε → ε → Prop} {results : β → γ → Prop}

/-- Two outcomes of one kind: results in one relation, or faults in another. -/
inductive Agree (faults : ε → ε → Prop) (results : β → γ → Prop) :
    Except ε β → Except ε γ → Prop
  | ok {first : β} {second : γ} (related : results first second) :
      Agree faults results (.ok first) (.ok second)
  | error {first second : ε} (related : faults first second) :
      Agree faults results (.error first) (.error second)

/-- Traversals whose steps agree come to results that agree item by item, or to faults that
agree. -/
theorem Agree.mapM {items : List α} {others : List δ} {f : α → Except ε β} {g : δ → Except ε γ}
    (steps : List.Forall₂ (fun item other => Agree faults results (f item) (g other))
      items others) :
    Agree faults (List.Forall₂ results) (items.mapM f) (others.mapM g) := by
  induction steps with
  | nil => exact .ok .nil
  | @cons item other rest others here _ ih =>
      rw [List.mapM_cons, List.mapM_cons]
      generalize f item = first, g other = second at here
      generalize rest.mapM f = firsts, others.mapM g = seconds at ih
      cases here with
      | error related => exact .error related
      | ok related =>
          cases ih with
          | error later => exact .error later
          | ok later => exact .ok (.cons related later)

/-- Outcomes stay of one kind under maps that respect the relations. -/
theorem Agree.map {β' γ' : Type*} {images : β' → γ' → Prop} {f : β → β'} {g : γ → γ'}
    {first : Except ε β} {second : Except ε γ} (agree : Agree faults results first second)
    (respect : ∀ b c, results b c → images (f b) (g c)) :
    Agree faults images (first.map f) (second.map g) := by
  cases agree with
  | error related => exact .error related
  | ok related => exact .ok (respect _ _ related)

theorem Agree.of_eq (reflexive : ∀ fault, faults fault fault) {first second : Except ε β}
    (same : first = second) : Agree faults Eq first second := by
  subst same
  cases first with
  | error fault => exact .error (reflexive fault)
  | ok result => exact .ok rfl

/-- Outcomes with equal results and equal faults are equal. -/
theorem Agree.eq {first second : Except ε β} (agree : Agree Eq Eq first second) :
    first = second := by
  cases agree with
  | error related => rw [related]
  | ok related => rw [related]

/-- Outcomes with equal results come to the same results. -/
theorem Agree.eq_ok_iff {first second : Except ε β} (agree : Agree faults Eq first second)
    (result : β) : first = .ok result ↔ second = .ok result := by
  cases agree with
  | error related => simp
  | ok related => rw [related]

/-- Traversals with equal steps are equal. -/
theorem mapM_eq_of_forall₂ {items : List α} {others : List δ} {f : α → Except ε β}
    {g : δ → Except ε β} (steps : List.Forall₂ (fun item other => f item = g other) items others) :
    items.mapM f = others.mapM g := by
  induction steps with
  | nil => rfl
  | cons here _ ih => rw [List.mapM_cons, List.mapM_cons, here, ih]

end Agreement

end EnvConcord.Collection

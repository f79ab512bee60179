import Mathlib.Data.List.Induction
import Mathlib.Data.List.Nodup

/-!
# Dropping repeats

Where repeats are dropped as a list grows, the list keeps the first occurrences; it makes no
difference whether they are dropped on the way or at the end.
-/

namespace EnvConcord.Collection

variable {α : Type*} [BEq α] [LawfulBEq α]

theorem eraseDups_append_singleton [DecidableEq α] (items : List α) (item : α) :
    (items ++ [item]).eraseDups =
      if item ∈ items then items.eraseDups else items.eraseDups ++ [item] := by
  rw [List.eraseDups_append]
  by_cases known : item ∈ items
  · simp [List.removeAll, known]
  · simp [List.removeAll, known, List.eraseDups_cons]

@[simp]
theorem eraseDups_eraseDups (items : List α) : items.eraseDups.eraseDups = items.eraseDups := by
  classical
  induction items using List.reverseRecOn with
  | nil => rfl
  | append_singleton items item ih =>
      rw [eraseDups_append_singleton]
      split
      · exact ih
      next absent =>
          rw [eraseDups_append_singleton, ih, if_neg (mt List.mem_eraseDups.1 absent)]

/-- Repeats that were dropped before more items came are dropped afterwards as well. -/
theorem eraseDups_append_eraseDups (items more : List α) :
    (items.eraseDups ++ more).eraseDups = (items ++ more).eraseDups := by
  classical
  induction more using List.reverseRecOn with
  | nil => simp
  | append_singleton more item ih =>
      rw [← List.append_assoc, ← List.append_assoc, eraseDups_append_singleton,
        eraseDups_append_singleton, ih]
      simp [List.mem_eraseDups]

theorem eraseDups_append_eraseDups_right (items more : List α) :
    (items ++ more.eraseDups).eraseDups = (items ++ more).eraseDups := by
  classical
  induction more using List.reverseRecOn with
  | nil => rfl
  | append_singleton more item ih =>
      rw [eraseDups_append_singleton, ← List.append_assoc, eraseDups_append_singleton]
      by_cases known : item ∈ more
      · rw [if_pos known, if_pos (List.mem_append_right items known), ih]
      · rw [if_neg known, ← List.append_assoc, eraseDups_append_singleton, ih]
        simp only [List.mem_append, List.mem_eraseDups]

/-- Items that are all known are dropped. -/
theorem eraseDups_append_of_subset {items more : List α} (known : more ⊆ items) :
    (items ++ more).eraseDups = items.eraseDups := by
  classical
  induction more using List.reverseRecOn with
  | nil => simp
  | append_singleton more item ih =>
      obtain ⟨before, last⟩ := List.append_subset.1 known
      have mem : item ∈ items ++ more := List.mem_append_left more (last List.mem_cons_self)
      rw [← List.append_assoc, eraseDups_append_singleton, if_pos mem, ih before]

theorem nodup_eraseDups (items : List α) : items.eraseDups.Nodup := by
  classical
  induction items using List.reverseRecOn with
  | nil => exact List.nodup_nil
  | append_singleton items item ih =>
      rw [eraseDups_append_singleton]
      split
      · exact ih
      next absent =>
          rw [← List.concat_eq_append, List.nodup_concat]
          exact ⟨mt List.mem_eraseDups.1 absent, ih⟩

/-- Nothing is dropped exactly where nothing is repeated. -/
theorem eraseDups_eq_self_iff (items : List α) : items.eraseDups = items ↔ items.Nodup := by
  classical
  constructor
  · intro kept
    exact kept ▸ nodup_eraseDups items
  · intro distinct
    induction items using List.reverseRecOn with
    | nil => rfl
    | append_singleton items item ih =>
        obtain ⟨before, -, apart⟩ := List.nodup_append.1 distinct
        have absent : item ∉ items := fun mem => apart item mem item (by simp) rfl
        rw [eraseDups_append_singleton, if_neg absent, ih before]

/-- An item in front makes no difference exactly where it is in front already and nothing is
repeated. -/
theorem eraseDups_cons_eq_iff (item : α) (items : List α) :
    (item :: items).eraseDups = items ↔ items.head? = some item ∧ items.Nodup := by
  constructor
  · intro kept
    refine ⟨?_, kept ▸ nodup_eraseDups _⟩
    rw [← kept, List.eraseDups_cons]
    rfl
  · rintro ⟨first, distinct⟩
    obtain ⟨rest, rfl⟩ : ∃ rest, items = item :: rest := by
      cases items with
      | nil => contradiction
      | cons own rest => exact ⟨rest, by rw [Option.some.inj first]⟩
    have again : (item :: item :: rest).eraseDups = (item :: rest).eraseDups := by
      simp [List.eraseDups_cons]
    rw [again, (eraseDups_eq_self_iff _).2 distinct]

end EnvConcord.Collection

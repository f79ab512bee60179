import EnvConcord.Proofs.Collection.Dict
import Mathlib.Data.List.Induction
import Mathlib.Data.List.Perm.Basic

/-!
# Grouping items under keys

Items are put into a dictionary one by one, each changing the value of its own key from a
starting value of that key.  The value of a key is then a fold over the items of that
key alone, and whatever the items add to a list view of the values is kept.
-/

namespace EnvConcord.Dict

variable {α : Type*} {β : Type*} {γ : Type*} {ι : Type*} [DecidableEq α]

/-- Let an item change the value of its key. -/
def groupStep (keyOf : ι → α) (start : α → β) (step : β → ι → β) (d : Dict α β) (item : ι) :
    Dict α β :=
  d.insert (keyOf item) (step ((d.get? (keyOf item)).getD (start (keyOf item))) item)

/-- The dictionary of items under their keys. -/
def group (keyOf : ι → α) (start : α → β) (step : β → ι → β) (items : List ι) : Dict α β :=
  items.foldl (groupStep keyOf start step) empty

variable (keyOf : ι → α) (start : α → β) (step : β → ι → β)

@[simp]
theorem group_nil : group keyOf start step [] = empty := rfl

theorem group_concat (items : List ι) (item : ι) :
    group keyOf start step (items ++ [item]) =
      groupStep keyOf start step (group keyOf start step items) item := by
  simp [group, List.foldl_append]

/-- The keys of a group are those of its items. -/
theorem mem_keys_group (items : List ι) (key : α) :
    key ∈ (group keyOf start step items).keys ↔ key ∈ items.map keyOf := by
  induction items using List.reverseRecOn with
  | nil => simp
  | append_singleton items item ih =>
      rw [group_concat, groupStep, mem_keys_insert, ih]
      simp [or_comm]

/-- The keys of a group come in the order in which its items first have them. -/
theorem keys_group (items : List ι) :
    (group keyOf start step items).keys = (items.map keyOf).eraseDups := by
  induction items using List.reverseRecOn with
  | nil => rfl
  | append_singleton items item ih =>
      rw [group_concat, groupStep, keys_insert, ih, List.map_append, List.map_singleton,
        Collection.eraseDups_append_singleton]
      simp only [List.mem_eraseDups]

theorem filter_keyOf_eq_nil {items : List ι} {key : α}
    (absent : key ∉ items.map keyOf) : (items.filter fun item => keyOf item = key) = [] := by
  rw [List.filter_eq_nil_iff]
  intro item mem same
  exact absent (of_decide_eq_true same ▸ List.mem_map_of_mem mem)

/-- The value of a key is the fold over the items of that key. -/
theorem getD_get?_group (items : List ι) (key : α) :
    ((group keyOf start step items).get? key).getD (start key) =
      (items.filter fun item => keyOf item = key).foldl step (start key) := by
  induction items using List.reverseRecOn with
  | nil => rfl
  | append_singleton items item ih =>
      rw [group_concat, groupStep, get?_insert, List.filter_append, List.foldl_append]
      by_cases here : keyOf item = key
      · subst here
        simp [ih]
      · rw [if_neg (Ne.symm here), ih]
        simp [here]

theorem mem_toList_group {items : List ι} {key : α} {value : β}
    (mem : (key, value) ∈ (group keyOf start step items).toList) :
    value = (items.filter fun item => keyOf item = key).foldl step (start key) := by
  rw [← getD_get?_group, (get?_eq_some_iff _ _ _).2 mem]
  rfl

/-- A group's values are the folds of its keys. -/
theorem values_group (items : List ι) :
    (group keyOf start step items).values =
      (group keyOf start step items).keys.map fun key =>
        (items.filter fun item => keyOf item = key).foldl step (start key) := by
  rw [values, keys, List.map_map]
  apply List.map_congr_left
  rintro ⟨key, value⟩ mem
  exact mem_toList_group keyOf start step mem

/-! ## List views -/

/-- Replacing a value by one with a longer view, or adding a first value, adds to the view
of all values. -/
theorem flatMap_insert_perm (view : α → β → List γ) (d : Dict α β) (key : α) (initial next : β)
    (more : List γ) (initial_view : view key initial = [])
    (next_view : view key next = view key ((d.get? key).getD initial) ++ more) :
    List.Perm ((d.insert key next).toList.flatMap fun pair => view pair.1 pair.2)
      ((d.toList.flatMap fun pair => view pair.1 pair.2) ++ more) := by
  suffices ∀ pairs : List (α × β),
      view key next = view key ((pairs.lookup key).getD initial) ++ more →
      List.Perm ((insertPair key next pairs).flatMap fun pair => view pair.1 pair.2)
        ((pairs.flatMap fun pair => view pair.1 pair.2) ++ more) from this d.toList next_view
  intro pairs
  induction pairs with
  | nil =>
      intro eq
      have bare : view key next = more := by simpa [initial_view] using eq
      simp [insertPair, bare]
  | cons pair rest ih =>
      intro eq
      rcases pair with ⟨first, value⟩
      by_cases here : first = key
      · subst here
        simp only [List.lookup_cons_self, Option.getD_some] at eq
        simp only [insertPair, if_true, List.flatMap_cons, eq, List.append_assoc]
        exact (List.perm_append_comm).append_left (view first value)
      · have apart : (key == first) = false := by simpa using Ne.symm here
        simp only [List.lookup_cons, apart] at eq
        simp only [insertPair, here, if_false, List.flatMap_cons, List.append_assoc]
        exact (ih eq).append_left (view first value)

/-- If every item adds its own part to the view of its key's value, the views of all values
together are the items' parts, up to order. -/
theorem flatMap_group_perm (view : α → β → List γ) (part : ι → List γ)
    (start_view : ∀ key, view key (start key) = [])
    (step_view : ∀ value item, view (keyOf item) (step value item) =
      view (keyOf item) value ++ part item)
    (items : List ι) :
    List.Perm ((group keyOf start step items).toList.flatMap fun pair => view pair.1 pair.2)
      (items.flatMap part) := by
  induction items using List.reverseRecOn with
  | nil => rfl
  | append_singleton items item ih =>
      rw [group_concat, groupStep, List.flatMap_append, List.flatMap_singleton]
      refine (flatMap_insert_perm view _ _ (start (keyOf item)) _ (part item)
        (start_view (keyOf item)) ?_).trans (ih.append_right (part item))
      exact step_view _ item

end EnvConcord.Dict

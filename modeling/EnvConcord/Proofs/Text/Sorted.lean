import EnvConcord.Text.Sorted
import Mathlib.Data.List.Sort
import Mathlib.Data.String.Basic

/-!
# Items in the order of their names

Sorting items by a name neither loses nor adds any, and puts the names in ascending order;
distinct names come out strictly ascending.  A sorted list is settled by its items alone,
in whatever order they came.
-/

namespace EnvConcord.Text

variable {α : Type*}

@[simp]
theorem sort_nil : sort [] = [] := List.mergeSort_nil

@[simp]
theorem sortDistinct_singleton (key : String) : sortDistinct [key] = [key] := by
  rw [sortDistinct, sort, List.mergeSort_singleton]
  rfl

/-- Items that are sorted by a key have ascending keys. -/
theorem pairwise_mergeSort_key {κ : Type*} [LinearOrder κ] (keyOf : α → κ) {before : α → α → Bool}
    (before_iff : ∀ a b, before a b = true ↔ keyOf a ≤ keyOf b) (items : List α) :
    (items.mergeSort before).Pairwise fun a b => keyOf a ≤ keyOf b := by
  have ordered : (items.mergeSort before).Pairwise fun a b => before a b = true := by
    apply List.pairwise_mergeSort
    · intro a b c first second
      rw [before_iff] at first second ⊢
      exact first.trans second
    · intro a b
      rw [Bool.or_eq_true, before_iff, before_iff]
      exact le_total (keyOf a) (keyOf b)
  exact ordered.imp fun holds => (before_iff _ _).1 holds

/-- Items sorted by name have ascending names. -/
theorem pairwise_mergeSort_name (nameOf : α → String) (items : List α) :
    (items.mergeSort fun a b => decide (nameOf a ≤ nameOf b)).Pairwise
      fun a b => nameOf a ≤ nameOf b :=
  pairwise_mergeSort_key nameOf (fun _ _ => decide_eq_true_iff) items

/-- Items with distinct names, sorted by name, have strictly ascending names. -/
theorem pairwise_lt_map_mergeSort (nameOf : α → String) {items : List α}
    (distinct : (items.map nameOf).Nodup) :
    ((items.mergeSort fun a b => decide (nameOf a ≤ nameOf b)).map nameOf).Pairwise (· < ·) := by
  have sorted_distinct :
      ((items.mergeSort fun a b => decide (nameOf a ≤ nameOf b)).map nameOf).Nodup :=
    ((List.mergeSort_perm items _).map nameOf).nodup_iff.2 distinct
  rw [List.pairwise_map]
  refine (pairwise_mergeSort_name nameOf items).imp₂ ?_ (List.pairwise_map.1 sorted_distinct)
  intro a b below apart
  exact lt_of_le_of_ne below apart

theorem sort_perm (texts : List String) : (sort texts).Perm texts := List.mergeSort_perm texts _

theorem mem_sort {texts : List String} {text : String} : text ∈ sort texts ↔ text ∈ texts :=
  (sort_perm texts).mem_iff

theorem mem_dropRepeats {texts : List String} {text : String} :
    text ∈ dropRepeats texts ↔ text ∈ texts := by
  fun_induction dropRepeats texts with
  | case1 => rfl
  | case2 only => rfl
  | case3 first rest ih =>
      rw [ih]
      simp
  | case4 first second rest _ ih => rw [List.mem_cons, ih, ← List.mem_cons]

theorem mem_sortDistinct {texts : List String} {text : String} :
    text ∈ sortDistinct texts ↔ text ∈ texts := by
  rw [sortDistinct, mem_dropRepeats, mem_sort]

theorem length_sort (texts : List String) : (sort texts).length = texts.length :=
  (sort_perm texts).length_eq

theorem pairwise_le_sort (texts : List String) : (sort texts).Pairwise (· ≤ ·) :=
  pairwise_mergeSort_name id texts

/-- Sorting does not see the order in which the texts come. -/
theorem sort_eq_of_perm {texts others : List String} (perm : texts.Perm others) :
    sort texts = sort others :=
  ((sort_perm texts).trans (perm.trans (sort_perm others).symm)).eq_of_pairwise'
    (pairwise_le_sort texts) (pairwise_le_sort others)

/-- Sorting keeps the number of occurrences of a text. -/
theorem filter_sort (texts : List String) (text : String) :
    (sort texts).filter (· == text) = texts.filter (· == text) := by
  rw [List.filter_beq, List.filter_beq, sort, (List.mergeSort_perm texts _).count_eq]

theorem pairwise_lt_sort {texts : List String} (distinct : texts.Nodup) :
    (sort texts).Pairwise (· < ·) := by
  have map_distinct : (texts.map id).Nodup := by simpa using distinct
  simpa [sort] using pairwise_lt_map_mergeSort id map_distinct

/-- Dropping repeats from ascending texts leaves them strictly ascending. -/
theorem pairwise_lt_dropRepeats {texts : List String} (ascending : texts.Pairwise (· ≤ ·)) :
    (dropRepeats texts).Pairwise (· < ·) := by
  fun_induction dropRepeats texts with
  | case1 => exact List.Pairwise.nil
  | case2 only => exact List.pairwise_singleton ..
  | case3 first rest ih => exact ih ascending.tail
  | case4 first second rest apart ih =>
      obtain ⟨first_le, rest_ascending⟩ := List.pairwise_cons.1 ascending
      refine List.pairwise_cons.2 ⟨fun text mem => ?_, ih rest_ascending⟩
      have first_lt : first < second := lt_of_le_of_ne (first_le second List.mem_cons_self) apart
      rcases List.mem_cons.1 (mem_dropRepeats.1 mem) with rfl | later
      · exact first_lt
      · exact lt_of_lt_of_le first_lt ((List.pairwise_cons.1 rest_ascending).1 text later)

theorem pairwise_lt_sortDistinct (texts : List String) : (sortDistinct texts).Pairwise (· < ·) :=
  pairwise_lt_dropRepeats (pairwise_le_sort texts)

/-- Strictly ascending texts are settled by which texts they are. -/
theorem eq_of_mem_iff_of_pairwise_lt {texts others : List String}
    (ascending : texts.Pairwise (· < ·)) (ascending' : others.Pairwise (· < ·))
    (same : ∀ text, text ∈ texts ↔ text ∈ others) : texts = others :=
  ascending.eq_of_mem_iff ascending' fun text => same text

end EnvConcord.Text

import EnvConcord.Settings.Override
import Mathlib.Data.List.Perm.Basic

/-!
# Listing keys in order

Unknown keys are listed in order, which takes keys that can be compared with each other and that
can be shown.  A single key needs no comparison, whatever it is.
-/

namespace EnvConcord.Settings

open Document

/-- Whether any two of the keys can be compared. -/
def CanSort (keys : List Value) : Prop := keys.Pairwise fun a b => a.isComparable b = true

instance (keys : List Value) : Decidable (CanSort keys) :=
  inferInstanceAs (Decidable (keys.Pairwise _))

theorem isComparable_iff {a b : Value} :
    a.isComparable b = true ↔ a.sortKind?.isSome = true ∧ a.sortKind? = b.sortKind? := by
  simp [Value.isComparable]

theorem isComparable_symm {a b : Value} (comparable : a.isComparable b = true) :
    b.isComparable a = true := by
  rw [isComparable_iff] at comparable ⊢
  exact ⟨comparable.2 ▸ comparable.1, comparable.2.symm⟩

theorem isComparable_trans {a b c : Value} (first : a.isComparable b = true)
    (second : b.isComparable c = true) : a.isComparable c = true := by
  rw [isComparable_iff] at first second ⊢
  exact ⟨first.1, first.2.trans second.2⟩

theorem canSort_perm {keys others : List Value} (perm : keys.Perm others) :
    CanSort keys ↔ CanSort others :=
  perm.pairwise_iff isComparable_symm

/-- A key is inserted unless it cannot be compared with the first of the others. -/
theorem insertSorted_cases (key : Value) {sorted : List Value} (alike : CanSort sorted) :
    (CanSort (key :: sorted) ∧
        ∃ inserted, insertSorted key sorted = .ok inserted ∧ inserted.Perm (key :: sorted)) ∨
      (¬CanSort (key :: sorted) ∧
        ∃ first second, insertSorted key sorted = .error (.unordered first second)) := by
  induction sorted with
  | nil => exact Or.inl ⟨List.pairwise_singleton .., [key], rfl, List.Perm.refl _⟩
  | cons other rest ih =>
      obtain ⟨with_rest, rest_alike⟩ := List.pairwise_cons.1 alike
      cases comparable : key.isComparable other with
      | false =>
          right
          have less_eq : key.less? other = none := by simp [Value.less?, comparable]
          refine ⟨?_, key.fullKindName, other.fullKindName, by rw [insertSorted, less_eq]⟩
          intro all_alike
          have with_other := (List.pairwise_cons.1 all_alike).1 other List.mem_cons_self
          simp [comparable] at with_other
      | true =>
          -- What compares with the first of the others compares with all of them.
          have all_alike : CanSort (key :: other :: rest) := by
            refine List.pairwise_cons.2 ⟨?_, alike⟩
            intro third mem
            rcases List.mem_cons.1 mem with rfl | later
            · exact comparable
            · exact isComparable_trans comparable (with_rest third later)
          refine Or.inl ⟨all_alike, ?_⟩
          have less_eq : key.less? other = some (key.isBefore other) := by
            simp [Value.less?, comparable]
          cases before : key.isBefore other with
          | true => exact ⟨_, by rw [insertSorted, less_eq, before], List.Perm.refl _⟩
          | false =>
              have pair_alike : CanSort (key :: rest) :=
                all_alike.sublist ((List.sublist_cons_self other rest).cons_cons key)
              rcases ih rest_alike with ⟨-, inserted, done, perm⟩ | ⟨apart, -⟩
              · refine ⟨other :: inserted, by rw [insertSorted, less_eq, before, done]; rfl, ?_⟩
                exact (perm.cons other).trans (List.Perm.swap key other rest)
              · exact absurd pair_alike apart

/-- Keys are put in order, or two of them cannot be compared. -/
theorem sortKeys_cases (keys : List Value) :
    (CanSort keys ∧ ∃ sorted, sortKeys keys = .ok sorted ∧ sorted.Perm keys) ∨
      (¬CanSort keys ∧ ∃ first second, sortKeys keys = .error (.unordered first second)) := by
  -- The keys put in order so far only ever change by a permutation.
  suffices ∀ sorted, CanSort sorted →
      (CanSort (keys ++ sorted) ∧
          ∃ result, keys.foldlM (fun sorted key => insertSorted key sorted) sorted = .ok result ∧
            result.Perm (keys ++ sorted)) ∨
        (¬CanSort (keys ++ sorted) ∧ ∃ first second,
          keys.foldlM (fun sorted key => insertSorted key sorted) sorted =
            .error (.unordered first second)) by
    simpa [sortKeys] using this [] List.Pairwise.nil
  induction keys with
  | nil => exact fun sorted alike => Or.inl ⟨alike, sorted, rfl, List.Perm.refl _⟩
  | cons key rest ih =>
      intro sorted alike
      rw [List.cons_append, List.foldlM_cons]
      have moved : (rest ++ key :: sorted).Perm (key :: (rest ++ sorted)) := List.perm_middle
      rcases insertSorted_cases key alike with
        ⟨pair_alike, inserted, done, perm⟩ | ⟨apart, first, second, failed⟩
      · have inserted_alike : CanSort inserted := (canSort_perm perm).2 pair_alike
        have whole : (rest ++ inserted).Perm (key :: (rest ++ sorted)) :=
          (perm.append_left rest).trans moved
        rw [done, ← canSort_perm whole]
        rcases ih inserted inserted_alike with ⟨all_alike, result, run, result_perm⟩ | stopped
        · exact Or.inl ⟨all_alike, result, run, result_perm.trans whole⟩
        · exact Or.inr stopped
      · right
        refine ⟨?_, first, second, by rw [failed]; rfl⟩
        intro all_alike
        exact apart (((canSort_perm moved).2 all_alike).sublist (List.sublist_append_right ..))

/-! ## Shown keys -/

/-- Whether keys can be listed in a message: in order, and each of them as a text. -/
def CanList (keys : List Value) : Prop := CanSort keys ∧ ∀ key ∈ keys, key.isLong = false

instance (keys : List Value) : Decidable (CanList keys) :=
  inferInstanceAs (Decidable (_ ∧ _))

/-- A key is shown, unless it is an integer with too many digits. -/
theorem keyText_cases (key : Value) :
    (key.isLong = false ∧ keyText key = .ok key.plain) ∨
      (key.isLong = true ∧ ∃ cause, keyText key = .error (.tooManyDigits cause)) := by
  rw [keyText, Value.written]
  cases key.isLong with
  | false => exact Or.inl ⟨rfl, rfl⟩
  | true => exact Or.inr ⟨rfl, .writing, rfl⟩

theorem mapM_keyText_cases (keys : List Value) :
    ((∀ key ∈ keys, key.isLong = false) ∧ keys.mapM keyText = .ok (keys.map Value.plain)) ∨
      ((∃ key ∈ keys, key.isLong = true) ∧
        ∃ cause, keys.mapM keyText = .error (.tooManyDigits cause)) := by
  induction keys with
  | nil => exact Or.inl ⟨by simp, rfl⟩
  | cons key rest ih =>
      rw [List.mapM_cons]
      rcases keyText_cases key with ⟨short, shown⟩ | ⟨long, cause, failed⟩
      · rcases ih with ⟨rest_short, rest_shown⟩ | ⟨⟨other, mem, long⟩, cause, failed⟩
        · exact Or.inl ⟨List.forall_mem_cons.2 ⟨short, rest_short⟩, by rw [shown, rest_shown]; rfl⟩
        · exact Or.inr ⟨⟨other, List.mem_cons_of_mem key mem, long⟩, cause,
            by rw [shown, failed]; rfl⟩
      · exact Or.inr ⟨⟨key, List.mem_cons_self, long⟩, cause, by rw [failed]; rfl⟩

end EnvConcord.Settings

import EnvConcord.Proofs.EnvFile.Binding.Head

/-!
# Bindings of a text

The bindings of a text are put together again by joining their texts.  In a text with line
feeds only, any of its bindings, joined in their order, are cut into themselves.
-/

namespace EnvConcord.EnvFile

open Binding

theorem bindingsFrom_succ (fuel : Nat) {cs : List Char} (nonempty : cs ≠ []) :
    bindingsFrom (fuel + 1) cs =
      ⟨(splitBinding cs).1, cs.take (cs.length - (splitBinding cs).2.length)⟩ ::
        bindingsFrom fuel (splitBinding cs).2 := by
  cases cs with
  | nil => contradiction
  | cons c cs => rfl

/-- More steps than characters make no difference. -/
theorem bindingsFrom_eq_of_le {fuel fuel' : Nat} {cs : List Char} (enough : cs.length ≤ fuel)
    (enough' : cs.length ≤ fuel') : bindingsFrom fuel cs = bindingsFrom fuel' cs := by
  induction fuel generalizing fuel' cs with
  | zero =>
      obtain rfl := List.length_eq_zero_iff.1 (Nat.le_zero.1 enough)
      cases fuel' <;> rfl
  | succ fuel ih =>
      cases cs with
      | nil => cases fuel' <;> rfl
      | cons c cs =>
          cases fuel' with
          | zero => simp at enough'
          | succ fuel' =>
              have shorter := length_splitBinding_lt (List.cons_ne_nil c cs)
              have rest_enough := Nat.le_of_lt_succ (shorter.trans_le enough)
              have rest_enough' := Nat.le_of_lt_succ (shorter.trans_le enough')
              rw [bindingsFrom_succ fuel (List.cons_ne_nil c cs),
                bindingsFrom_succ fuel' (List.cons_ne_nil c cs), ih rest_enough rest_enough']

@[simp]
theorem bindings_nil : bindings [] = [] := rfl

/-- The first binding of a text is what is cut off, and the others are those of the rest. -/
theorem bindings_append {text rest : List Char} {key : Option String} (nonempty : text ≠ [])
    (split_eq : splitBinding (text ++ rest) = (key, rest)) :
    bindings (text ++ rest) = ⟨key, text⟩ :: bindings rest := by
  have whole : text ++ rest ≠ [] := by simp [nonempty]
  have positive := List.length_pos_iff.2 nonempty
  rcases Nat.exists_eq_succ_of_ne_zero (List.length_pos_iff.2 whole).ne' with ⟨fuel, fuel_eq⟩
  have enough : rest.length ≤ fuel := by
    rw [List.length_append] at fuel_eq
    omega
  rw [bindings, fuel_eq, bindingsFrom_succ fuel whole, split_eq,
    bindingsFrom_eq_of_le enough (le_refl rest.length), List.length_append, Nat.add_sub_cancel,
    List.take_left]
  rfl

/-- Induction along the bindings of a text. -/
theorem binding_induction {motive : List Char → Prop} (nil : motive [])
    (cut : ∀ text rest key, text ≠ [] → splitBinding (text ++ rest) = (key, rest) →
      motive rest → motive (text ++ rest)) (cs : List Char) : motive cs := by
  by_cases empty : cs = []
  · rwa [empty]
  · have shorter := length_splitBinding_lt empty
    rcases splitBinding_suffix cs with ⟨text, text_eq⟩
    have nonempty : text ≠ [] := by
      rintro rfl
      rw [List.nil_append] at text_eq
      rw [text_eq] at shorter
      omega
    have later := binding_induction nil cut (splitBinding cs).2
    have whole := cut text (splitBinding cs).2 (splitBinding cs).1 nonempty (by rw [text_eq]) later
    rwa [text_eq] at whole
termination_by cs.length

/-- The bindings of a text, joined, are the text. -/
theorem flatMap_text_bindings (cs : List Char) : (bindings cs).flatMap Binding.text = cs := by
  induction cs using binding_induction with
  | nil => rfl
  | cut text rest key nonempty split_eq ih =>
      rw [bindings_append nonempty split_eq, List.flatMap_cons, ih]

/-- Some of the bindings of a text, joined. -/
def joinKept (keep : Binding → Bool) (cs : List Char) : List Char :=
  ((bindings cs).filter keep).flatMap Binding.text

theorem mem_of_mem_joinKept {keep : Binding → Bool} {cs : List Char} {c : Char}
    (mem : c ∈ joinKept keep cs) : c ∈ cs := by
  rw [joinKept, List.mem_flatMap] at mem
  rcases mem with ⟨part, part_mem, mem⟩
  rw [← flatMap_text_bindings cs, List.mem_flatMap]
  exact ⟨part, List.mem_of_mem_filter part_mem, mem⟩

/-- Some of the bindings of a text, joined, are cut into themselves. -/
theorem bindings_joinKept (keep : Binding → Bool) {cs : List Char} (cr : '\r' ∉ cs) :
    bindings (joinKept keep cs) = (bindings cs).filter keep := by
  induction cs using binding_induction with
  | nil => rfl
  | cut text rest key nonempty split_eq ih =>
      have rest_cr : '\r' ∉ rest := fun mem => cr (List.mem_append_right _ mem)
      rw [joinKept, bindings_append nonempty split_eq]
      cases kept : keep ⟨key, text⟩ with
      | false =>
          rw [List.filter_cons_of_neg (by simp [kept]), ← joinKept]
          exact ih rest_cr
      | true =>
          rw [List.filter_cons_of_pos kept, List.flatMap_cons, ← joinKept]
          have known : ∀ c ∈ joinKept keep rest, c ∈ rest := fun c mem => mem_of_mem_joinKept mem
          have same := splitBinding_append cr known (by rw [split_eq])
          rw [split_eq] at same
          rw [bindings_append nonempty same, ih rest_cr]

end EnvConcord.EnvFile

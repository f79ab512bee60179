import EnvConcord.Text.Blank
import Mathlib.Data.List.DropRight

/-!
# Trimmed texts

Trimming only takes characters off the two ends.  Its results are exactly the texts that
neither begin nor end with a blank, and trimming such a text again changes nothing.
-/

namespace EnvConcord.Text

/-- The letters and digits of the first script, and whatever lies between them, are no blanks. -/
theorem isBlank_eq_false_of_code {c : Char} (low : 48 ≤ c.toNat) (high : c.toNat ≤ 122) :
    isBlank c = false := by
  rw [← Bool.not_eq_true]
  simp only [isBlank, Bool.or_eq_true, Bool.and_eq_true, decide_eq_true_eq, beq_iff_eq]
  omega

theorem trim_eq_rdropWhile (cs : List Char) : trim cs = (trimLeft cs).rdropWhile isBlank := rfl

theorem trim_prefix_trimLeft (cs : List Char) : trim cs <+: trimLeft cs :=
  List.rdropWhile_prefix isBlank (trimLeft cs)

/-- What is left by trimming is one piece of the text. -/
theorem isInfix_trim (cs : List Char) : trim cs <:+: cs :=
  (trim_prefix_trimLeft cs).isInfix.trans (List.dropWhile_suffix isBlank).isInfix

theorem mem_of_mem_trim {c : Char} {cs : List Char} (mem : c ∈ trim cs) : c ∈ cs :=
  (isInfix_trim cs).subset mem

/-- A text that is trimmed on the left begins without a blank. -/
theorem isBlank_head_trimLeft {c : Char} {cs rest : List Char} (left : trimLeft cs = c :: rest) :
    isBlank c = false := by
  have stop := List.head?_dropWhile_not isBlank cs
  rw [← trimLeft, left] at stop
  simpa using stop

theorem trimLeft_eq_self_iff (cs : List Char) :
    trimLeft cs = cs ↔ ∀ c, cs.head? = some c → isBlank c = false := by
  cases cs with
  | nil => simp [trimLeft]
  | cons c rest =>
      constructor
      · intro left d first
        obtain rfl : c = d := by simpa using first
        exact isBlank_head_trimLeft left
      · intro begins
        exact List.dropWhile_cons_of_neg (by simp [begins c rfl])

/-- Trimming on the left takes off the blanks before a text that begins without one. -/
theorem trimLeft_append_of_blank {blanks rest : List Char}
    (blank : ∀ c ∈ blanks, isBlank c = true)
    (begins : ∀ c, rest.head? = some c → isBlank c = false) :
    trimLeft (blanks ++ rest) = rest := by
  rw [trimLeft, List.dropWhile_append_of_pos blank]
  exact (trimLeft_eq_self_iff rest).2 begins

/-- Trimming on the right does not change where a text begins. -/
theorem head?_trim (cs : List Char) : (trim cs).head? = (trimLeft cs).head? := by
  cases left : trimLeft cs with
  | nil => simp [trim_eq_rdropWhile, left]
  | cons c rest =>
      have nonempty : trim cs ≠ [] := by
        rw [trim_eq_rdropWhile, left, ne_eq, List.rdropWhile_eq_nil_iff]
        intro blank
        have first := blank c (by simp)
        rw [isBlank_head_trimLeft left] at first
        contradiction
      rcases trim_prefix_trimLeft cs with ⟨after, eq⟩
      rw [← left, ← eq, List.head?_append_of_ne_nil _ nonempty]

/-- Nothing is left by trimming exactly if all of the text is blank. -/
theorem trim_eq_nil_iff (cs : List Char) : trim cs = [] ↔ ∀ c ∈ cs, isBlank c = true := by
  rw [← trimLeft_eq_nil_iff, ← List.head?_eq_none_iff, ← List.head?_eq_none_iff, head?_trim]

/-- A text is left alone by trimming exactly if it has no blank at either end. -/
theorem trim_eq_self_iff (cs : List Char) :
    trim cs = cs ↔
      (∀ c, cs.head? = some c → isBlank c = false) ∧
        ∀ c, cs.getLast? = some c → isBlank c = false := by
  constructor
  · intro trimmed
    have left : trimLeft cs = cs := by
      apply (List.dropWhile_suffix isBlank).eq_of_length_le
      calc
        cs.length = (trim cs).length := by rw [trimmed]
        _ ≤ (trimLeft cs).length := (trim_prefix_trimLeft cs).length_le
    constructor
    · exact (trimLeft_eq_self_iff cs).1 left
    · intro c last
      rw [trim_eq_rdropWhile, left, List.rdropWhile_eq_self_iff] at trimmed
      have nonempty : cs ≠ [] := by
        rintro rfl
        contradiction
      rw [List.getLast?_eq_some_getLast nonempty, Option.some.injEq] at last
      simpa [last] using trimmed nonempty
  · rintro ⟨first, last⟩
    have left := (trimLeft_eq_self_iff cs).2 first
    rw [trim_eq_rdropWhile, left, List.rdropWhile_eq_self_iff]
    intro nonempty
    simp [last _ (List.getLast?_eq_some_getLast nonempty)]

/-- Trimming twice is trimming once. -/
@[simp]
theorem trim_trim (cs : List Char) : trim (trim cs) = trim cs := by
  rw [trim_eq_self_iff]
  constructor
  · intro c first
    rw [head?_trim] at first
    cases left : trimLeft cs with
    | nil => simp [left] at first
    | cons d rest =>
        rw [left, List.head?_cons, Option.some.injEq] at first
        exact first ▸ isBlank_head_trimLeft left
  · intro c last
    have nonempty : (trimLeft cs).rdropWhile isBlank ≠ [] := by
      intro empty
      simp [trim_eq_rdropWhile, empty] at last
    rw [trim_eq_rdropWhile, List.getLast?_eq_some_getLast nonempty, Option.some.injEq] at last
    simpa [last] using List.rdropWhile_last_not isBlank (trimLeft cs) nonempty

/-- A text with a character in it that is no blank begins, once trimmed, at that character or
before it. -/
theorem head?_trim_append_cons (cs : List Char) {c : Char} (solid : isBlank c = false)
    (rest : List Char) : (trim (cs ++ c :: rest)).head? = (trim cs).head?.or (some c) := by
  rw [head?_trim, head?_trim, trimLeft, List.dropWhile_append, ← trimLeft]
  cases left : trimLeft cs with
  | nil => simp [solid]
  | cons d more => rfl

/-- Blanks around a text are trimmed off. -/
theorem trim_append_of_blank {left right : List Char} (left_blank : ∀ c ∈ left, isBlank c = true)
    (right_blank : ∀ c ∈ right, isBlank c = true) (cs : List Char) :
    trim (left ++ cs ++ right) = trim cs := by
  have right_end (rest : List Char) : trimRight (rest ++ right) = trimRight rest := by
    rw [trimRight, List.reverse_append,
      List.dropWhile_append_of_pos (fun c mem => right_blank c (List.mem_reverse.1 mem)),
      ← trimRight]
  rw [trim, trim, List.append_assoc, trimLeft, List.dropWhile_append_of_pos left_blank,
    List.dropWhile_append, ← trimLeft]
  split
  next empty =>
      rw [List.isEmpty_iff.1 empty, List.dropWhile_eq_nil_iff.2 right_blank]
  next => exact right_end _

end EnvConcord.Text

import EnvConcord.Pattern.Regex.Matcher
import Mathlib.Data.List.Basic

/-!
# What simple expressions take

The matcher follows an expression with a continuation, turns back where that fails, and counts its
fuel.  None of this is left in what an expression of tests, anchors, sequences and greedy loops of
tests takes of a text: it may take whatever its rule allows in front of what is left, so
backtracking misses nothing, and the fuel suffices.
-/

namespace EnvConcord.Pattern.Regex

/-- What an expression takes of a text, wherever it starts and whatever is tried behind it: with the
fuel that is computed for it, it leads on to the places up to which a rule lets it take the text.
The rule sees what stands before the place, what is taken and what is left. -/
def Takes (cs : List Char) (r : Regex) (rule : List Char → List Char → List Char → Prop) : Prop :=
  ∀ fuel, fuelFor cs.length r ≤ fuel → ∀ before rest captures next, before ++ rest = cs →
    ((run cs.toArray fuel r ⟨before.length, captures⟩ next).isSome = true ↔
      ∃ taken left, rest = taken ++ left ∧ rule before taken left ∧
        (next ⟨(before ++ taken).length, captures⟩).isSome = true)

section Rules

variable {cs : List Char}

theorem getElem?_toArray_length {before rest : List Char} (text_eq : before ++ rest = cs) :
    cs.toArray[before.length]? = rest.head? := by
  subst text_eq
  simp [List.getElem?_append_right, List.head?_eq_getElem?]

/-- A test of a character leads on behind a character that passes it. -/
theorem isSome_run_char_iff (test : CharTest) {fuel : Nat} (enough : 0 < fuel)
    {before rest : List Char} (text_eq : before ++ rest = cs) (captures : List (Nat × Nat × Nat))
    (next : Situation → Option Situation) :
    (run cs.toArray fuel (.char test) ⟨before.length, captures⟩ next).isSome = true ↔
      ∃ c left, rest = c :: left ∧ test.holds c = true ∧
        (next ⟨(before ++ [c]).length, captures⟩).isSome = true := by
  obtain ⟨fuel, rfl⟩ := Nat.exists_eq_add_of_le' enough
  rw [run]
  simp only [getElem?_toArray_length text_eq]
  cases rest with
  | nil => simp
  | cons c left => by_cases passes : test.holds c = true <;> simp [passes]

theorem takes_char (test : CharTest) :
    Takes cs (.char test) fun _ taken _ => ∃ c, taken = [c] ∧ test.holds c = true := by
  intro fuel enough before rest captures next text_eq
  rw [isSome_run_char_iff test enough text_eq]
  constructor
  · rintro ⟨c, left, rfl, passes, goes_on⟩
    exact ⟨[c], left, rfl, ⟨c, rfl, passes⟩, goes_on⟩
  · rintro ⟨_, left, rfl, ⟨c, rfl, passes⟩, goes_on⟩
    exact ⟨c, left, rfl, passes, goes_on⟩

theorem takes_anchor (a : Anchor) :
    Takes cs (.anchor a) fun before taken left =>
      taken = [] ∧ Anchor.holds (before ++ left).toArray before.length a = true := by
  intro fuel enough before rest captures next text_eq
  obtain ⟨fuel, rfl⟩ := Nat.exists_eq_add_of_le' (show 1 ≤ fuel from enough)
  rw [run]
  simp only [text_eq.symm]
  by_cases holds : Anchor.holds (before ++ rest).toArray before.length a = true
  · rw [if_pos holds]
    constructor
    · intro goes_on
      exact ⟨[], rest, rfl, ⟨rfl, holds⟩, by simpa using goes_on⟩
    · rintro ⟨_, left, rfl, ⟨rfl, -⟩, goes_on⟩
      simpa using goes_on
  · rw [if_neg holds]
    simp only [Option.isSome_none, Bool.false_eq_true, false_iff]
    rintro ⟨_, left, rfl, ⟨rfl, here⟩, -⟩
    exact holds here

/-- One expression behind another takes what follows. -/
theorem takes_seq {first second : Regex}
    {rule rule' : List Char → List Char → List Char → Prop} (takes : Takes cs first rule)
    (takes' : Takes cs second rule') :
    Takes cs (.seq first second) fun before taken left =>
      ∃ front back, taken = front ++ back ∧ rule before front (back ++ left) ∧
        rule' (before ++ front) back left := by
  intro fuel enough before rest captures next text_eq
  have bound : 1 + max (fuelFor cs.length first) (fuelFor cs.length second) ≤ fuel := enough
  obtain ⟨fuel, rfl⟩ := Nat.exists_eq_add_of_le' (show 1 ≤ fuel by omega)
  rw [run, takes fuel (by omega) before rest captures _ text_eq]
  constructor
  · rintro ⟨front, between, rfl, front_rule, goes_on⟩
    rw [takes' fuel (by omega) _ between captures next (by simpa using text_eq)] at goes_on
    obtain ⟨back, left, rfl, back_rule, goes_on⟩ := goes_on
    exact ⟨front ++ back, left, by simp, ⟨front, back, rfl, front_rule, back_rule⟩,
      by simpa using goes_on⟩
  · rintro ⟨_, left, rfl, ⟨front, back, rfl, front_rule, back_rule⟩, goes_on⟩
    refine ⟨front, back ++ left, by simp, front_rule, ?_⟩
    rw [takes' fuel (by omega) _ (back ++ left) captures next (by simpa using text_eq)]
    exact ⟨back, left, rfl, back_rule, by simpa using goes_on⟩

/-- A greedy loop makes a round while it has to or may, and otherwise, or where that leads nowhere,
it is done. -/
theorem isSome_rounds_greedy_iff (text : Array Char) (fuel least : Nat) (most : Option Nat)
    (body : Regex) (count : Nat) (last : Option Nat) (s : Situation)
    (next : Situation → Option Situation) :
    (rounds text (fuel + 1) .greedy least most body count last s next).isSome = true ↔
      if count < least then
        (run text fuel body s fun t =>
          rounds text fuel .greedy least most body (count + 1) last t next).isSome = true
      else
        (mayContinue most count last s.position = true ∧
          (run text fuel body s fun t =>
            rounds text fuel .greedy least most body (count + 1) (some s.position) t
              next).isSome = true) ∨
        (next s).isSome = true := by
  rw [rounds.eq_def]
  simp only
  split
  · rfl
  · cases again : mayContinue most count last s.position with
    | false => simp
    | true =>
        simp only [if_true, true_and]
        cases run text fuel body s fun t =>
          rounds text fuel .greedy least most body (count + 1) (some s.position) t next <;> simp

/-- Of a text that goes on with a character, nothing is taken or that character first. -/
theorem exists_append_cons_iff {α : Type*} {property : List α → List α → Prop} {c : α}
    {rest : List α} :
    (∃ taken left, c :: rest = taken ++ left ∧ property taken left) ↔
      property [] (c :: rest) ∨
        ∃ taken left, rest = taken ++ left ∧ property (c :: taken) left := by
  constructor
  · rintro ⟨taken, left, text_eq, holds⟩
    rcases List.cons_eq_append_iff.1 text_eq with ⟨rfl, rfl⟩ | ⟨taken, rfl, rfl⟩
    · exact Or.inl holds
    · exact Or.inr ⟨taken, left, rfl, holds⟩
  · rintro (holds | ⟨taken, left, rfl, holds⟩)
    · exact ⟨[], c :: rest, rfl, holds⟩
    · exact ⟨c :: taken, left, rfl, holds⟩

/-- The rounds of a greedy loop of tests lead on behind all characters that pass, and behind fewer
of them where that leads nowhere. -/
theorem isSome_rounds_char_iff (least : Nat) (test : CharTest) {fuel count : Nat}
    {last : Option Nat} {before rest : List Char} (text_eq : before ++ rest = cs)
    (enough : rest.length + 2 ≤ fuel) (fresh : ∀ place, last = some place → place < before.length)
    (captures : List (Nat × Nat × Nat)) (next : Situation → Option Situation) :
    (rounds cs.toArray fuel .greedy least none (.char test) count last ⟨before.length, captures⟩
        next).isSome = true ↔
      ∃ taken left, rest = taken ++ left ∧
        (least ≤ count + taken.length ∧ ∀ c ∈ taken, test.holds c = true) ∧
        (next ⟨(before ++ taken).length, captures⟩).isSome = true := by
  induction rest generalizing before fuel count last with
  | nil =>
      obtain ⟨fuel, rfl⟩ := Nat.exists_eq_add_of_le' (show 1 ≤ fuel by omega)
      rw [isSome_rounds_greedy_iff]
      simp only [isSome_run_char_iff test (show 0 < fuel by omega) text_eq]
      by_cases more : count < least
      · simp [more, Nat.not_le_of_lt more]
      · simp [more, Nat.le_of_not_lt more]
  | cons c rest ih =>
      obtain ⟨fuel, rfl⟩ := Nat.exists_eq_add_of_le' (show 1 ≤ fuel by omega)
      rw [List.length_cons] at enough
      -- A round takes the first character, and the rounds behind it take the others.
      have round : ∀ last : Option Nat, (∀ place, last = some place → place ≤ before.length) →
          ((run cs.toArray fuel (.char test) ⟨before.length, captures⟩ fun t =>
              rounds cs.toArray fuel .greedy least none (.char test) (count + 1) last t
                next).isSome = true ↔
            ∃ taken left, rest = taken ++ left ∧
              (least ≤ count + (c :: taken).length ∧ ∀ d ∈ c :: taken, test.holds d = true) ∧
              (next ⟨(before ++ c :: taken).length, captures⟩).isSome = true) := by
        intro last behind
        have text_eq' : before ++ [c] ++ rest = cs := by simpa using text_eq
        have fresh' : ∀ place, last = some place → place < (before ++ [c]).length := by
          intro place place_eq
          simpa using Nat.lt_succ_of_le (behind place place_eq)
        have later := @ih fuel (count + 1) last (before ++ [c]) text_eq' (by omega) fresh'
        rw [isSome_run_char_iff test (by omega) text_eq]
        simp only [List.cons.injEq]
        constructor
        · rintro ⟨_, _, ⟨rfl, rfl⟩, passes, goes_on⟩
          obtain ⟨taken, left, rfl, ⟨many, all_pass⟩, goes_on⟩ := later.1 goes_on
          refine ⟨taken, left, rfl, ⟨?_, List.forall_mem_cons.2 ⟨passes, all_pass⟩⟩, ?_⟩
          · rw [List.length_cons]
            omega
          · simpa using goes_on
        · rintro ⟨taken, left, rfl, ⟨many, all_pass⟩, goes_on⟩
          obtain ⟨passes, all_pass⟩ := List.forall_mem_cons.1 all_pass
          rw [List.length_cons] at many
          exact ⟨c, taken ++ left, ⟨rfl, rfl⟩, passes,
            later.2 ⟨taken, left, rfl, ⟨by omega, all_pass⟩, by simpa using goes_on⟩⟩
      rw [isSome_rounds_greedy_iff, exists_append_cons_iff]
      by_cases more : count < least
      · rw [if_pos more, round last fun place place_eq => Nat.le_of_lt (fresh place place_eq)]
        simp [Nat.not_le_of_lt more]
      · have again : mayContinue none count last before.length = true := by
          simp only [mayContinue, Option.all_none, Bool.true_and, bne_iff_ne]
          intro place_eq
          exact Nat.lt_irrefl _ (fresh before.length place_eq)
        rw [if_neg more, round (some before.length) fun place place_eq => by simp_all]
        simp [again, Nat.le_of_not_lt more, or_comm]

/-- A greedy loop of tests takes some characters that pass, as many as it has to at least. -/
theorem takes_loop_char (least : Nat) (test : CharTest) :
    Takes cs (.loop .greedy least none (.char test)) fun _ taken _ =>
      least ≤ taken.length ∧ ∀ c ∈ taken, test.holds c = true := by
  intro fuel enough before rest captures next text_eq
  have bound : least + cs.length + 4 + 1 ≤ fuel := enough
  have rest_le : rest.length ≤ cs.length := by
    rw [← text_eq, List.length_append]
    omega
  obtain ⟨fuel, rfl⟩ := Nat.exists_eq_add_of_le' (show 1 ≤ fuel by omega)
  rw [run, isSome_rounds_char_iff least test text_eq (by omega) (by simp)]
  simp

/-- An expression matches at a place exactly if it takes some of the text there. -/
theorem matchesAt_iff {r : Regex} {rule : List Char → List Char → List Char → Prop}
    (takes : Takes cs r rule) {before rest : List Char} (text_eq : before ++ rest = cs) :
    matchesAt r cs.toArray before.length = true ↔
      ∃ taken left, rest = taken ++ left ∧ rule before taken left := by
  rw [matchesAt, List.size_toArray, takes _ (Nat.le_refl _) before rest [] some text_eq]
  simp

end Rules

end EnvConcord.Pattern.Regex

import EnvConcord.Glob.Brace
import EnvConcord.Proofs.Text.Lines

/-!
# Choices of nested groups

A well-nested pattern is a sequence of characters and of groups, whose alternatives are
well-nested patterns themselves.  Expanding its text gives its choices: one alternative for every
group, where the first group varies slowest.  The expansion works on raw text and reads each text
that it has pasted together anew; that this comes to the same is seen by pasting an alternative
into the pattern.
-/

namespace EnvConcord.Glob.Brace

/-! ## Well-nested patterns -/

/-- What a character has to be to stand for itself.  A brace never does, and a comma does not
directly inside a group. -/
structure IsLiteral (grouped : Bool) (c : Char) : Prop where
  ne_open : c ≠ '{'
  ne_close : c ≠ '}'
  ne_comma : grouped = true → c ≠ ','

mutual

/-- A well-nested pattern, on its own or as an alternative directly inside a group. -/
inductive Pattern : (grouped : Bool) → Type
  | nil {grouped : Bool} : Pattern grouped
  | literal {grouped : Bool} (c : Char) (plain : IsLiteral grouped c) (rest : Pattern grouped) :
      Pattern grouped
  | group {grouped : Bool} (inside : Alternatives) (rest : Pattern grouped) : Pattern grouped

/-- The alternatives of a group, of which there is at least one. -/
inductive Alternatives : Type
  | last (alternative : Pattern true)
  | cons (alternative : Pattern true) (others : Alternatives)

end

mutual

/-- A pattern as it is written. -/
def Pattern.text {grouped : Bool} : Pattern grouped → List Char
  | .nil => []
  | .literal c _ rest => c :: rest.text
  | .group inside rest => '{' :: (inside.text ++ '}' :: rest.text)

/-- Alternatives as they are written, with commas between them. -/
def Alternatives.text : Alternatives → List Char
  | .last alternative => alternative.text
  | .cons alternative others => alternative.text ++ ',' :: others.text

end

mutual

/-- The texts that come from choosing one alternative for every group, in the order in which the
choices in earlier groups vary slowest. -/
def Pattern.choices {grouped : Bool} : Pattern grouped → List (List Char)
  | .nil => [[]]
  | .literal c _ rest => rest.choices.map (c :: ·)
  | .group inside rest =>
      inside.choices.flatMap fun chosen => rest.choices.map (chosen ++ ·)

/-- The choices of all alternatives, one alternative after the other. -/
def Alternatives.choices : Alternatives → List (List Char)
  | .last alternative => alternative.choices
  | .cons alternative others => alternative.choices ++ others.choices

end

/-- The alternatives as a list. -/
def Alternatives.toList : Alternatives → List (Pattern true)
  | .last alternative => [alternative]
  | .cons alternative others => alternative :: others.toList

theorem Alternatives.choices_eq_flatMap : (inside : Alternatives) →
    inside.choices = inside.toList.flatMap Pattern.choices
  | .last alternative => by simp [choices, toList]
  | .cons alternative others => by simp [choices, toList, others.choices_eq_flatMap]

/-! ## Pasting an alternative -/

/-- An alternative in front of the rest of a pattern. -/
def Pattern.paste {grouped : Bool} : Pattern true → Pattern grouped → Pattern grouped
  | .nil, after => after
  | .literal c plain rest, after =>
      .literal c ⟨plain.ne_open, plain.ne_close, fun _ => plain.ne_comma rfl⟩ (rest.paste after)
  | .group inside rest, after => .group inside (rest.paste after)

section Pasting

variable {grouped : Bool} (after : Pattern grouped)

theorem Pattern.text_paste : (p : Pattern true) → (p.paste after).text = p.text ++ after.text
  | .nil => by simp [paste, text]
  | .literal c plain rest => by simp [paste, text, rest.text_paste]
  | .group inside rest => by simp [paste, text, rest.text_paste]

/-- The choices of the alternative vary slower than those of the rest. -/
theorem Pattern.choices_paste : (p : Pattern true) →
    (p.paste after).choices =
      p.choices.flatMap fun chosen => after.choices.map (chosen ++ ·)
  | .nil => by simp [paste, choices]
  | .literal c plain rest => by
      simp [paste, choices, rest.choices_paste, List.map_flatMap, List.flatMap_map,
        Function.comp_def]
  | .group inside rest => by
      simp [paste, choices, rest.choices_paste, List.map_flatMap, List.flatMap_map,
        List.flatMap_assoc, Function.comp_def]

end Pasting

/-! ## Reading a group -/

mutual

/-- The search for the end of a group passes over a well-nested pattern. -/
theorem splitGroup?_text {grouped : Bool} (depth : Nat) (rest : List Char) :
    (p : Pattern grouped) → splitGroup? depth (p.text ++ rest) =
      (splitGroup? depth rest).map fun group => (p.text ++ group.1, group.2)
  | .nil => by simp [Pattern.text]
  | .literal c plain more => by
      have later := splitGroup?_text depth rest more
      simp [Pattern.text, splitGroup?, plain.ne_open, plain.ne_close, later, Function.comp_def]
  | .group inside more => by
      have inner := splitGroup?_alternatives (depth + 1) ('}' :: (more.text ++ rest)) inside
      have outer := splitGroup?_text depth rest more
      simp [Pattern.text, splitGroup?, inner, outer, Function.comp_def]

theorem splitGroup?_alternatives (depth : Nat) (rest : List Char) :
    (inside : Alternatives) → splitGroup? depth (inside.text ++ rest) =
      (splitGroup? depth rest).map fun group => (inside.text ++ group.1, group.2)
  | .last alternative => splitGroup?_text depth rest alternative
  | .cons alternative others => by
      have first := splitGroup?_text depth (',' :: (others.text ++ rest)) alternative
      have later := splitGroup?_alternatives depth rest others
      simp [Alternatives.text, splitGroup?, first, later, Function.comp_def]

end

section Cutting

variable {before : List Char} (plain : '{' ∉ before)

include plain

theorem cut?_of_not_mem : cut? before = none := by
  rw [cut?, Text.dropWhile_ne_of_not_mem plain]

theorem cut?_append_cons (rest : List Char) :
    cut? (before ++ '{' :: rest) =
      (splitGroup? 0 rest).map fun group => ⟨before, group.1, group.2⟩ := by
  rw [cut?, Text.dropWhile_ne_append_cons plain, Text.takeWhile_ne_append_cons plain]

/-- The first group of a pattern is cut out with its alternatives. -/
theorem cut?_group (inside : Alternatives) (after : List Char) :
    cut? (before ++ '{' :: (inside.text ++ '}' :: after)) = some ⟨before, inside.text, after⟩ := by
  rw [cut?_append_cons plain]
  simp [splitGroup?_alternatives, splitGroup?]

end Cutting

/-! ## Splitting at commas -/

theorem options_ne_nil (depth : Nat) (cs : List Char) : options depth cs ≠ [] := by
  cases cs with
  | nil => simp [options]
  | cons c rest =>
      rw [options]
      split
      · simp
      · simp only
        split <;> simp

/-- A character that does not separate options belongs to the first one. -/
theorem options_cons {depth : Nat} {c : Char} (joins : c = ',' → depth ≠ 0) (rest : List Char) :
    options depth (c :: rest) =
      (options (if c = '{' then depth + 1 else if c = '}' then depth - 1 else depth) rest).modifyHead
        (c :: ·) := by
  have kept : ¬(c = ',' && depth == 0) = true := by simpa using joins
  rw [options, if_neg kept]
  simp only
  split
  next none_left => exact absurd none_left (options_ne_nil _ rest)
  next option others found => rw [found, List.modifyHead_cons]

mutual

/-- A pattern stays in one piece: its own commas, if it may have any, are not outside of the
groups that are open. -/
theorem options_text {grouped : Bool} (depth : Nat) (covered : grouped = true ∨ depth ≠ 0)
    (rest : List Char) :
    (p : Pattern grouped) → options depth (p.text ++ rest) =
      (options depth rest).modifyHead (p.text ++ ·)
  | .nil => by
      cases found : options depth rest <;> simp [Pattern.text, found]
  | .literal c plain more => by
      have joins : c = ',' → depth ≠ 0 := fun comma =>
        covered.resolve_left fun inGroup => plain.ne_comma inGroup comma
      have later := options_text depth covered rest more
      rw [Pattern.text, List.cons_append, options_cons joins, if_neg plain.ne_open,
        if_neg plain.ne_close, later, List.modifyHead_modifyHead]
      rfl
  | .group inside more => by
      have inner := options_alternatives depth ('}' :: (more.text ++ rest)) inside
      have outer := options_text depth covered rest more
      rw [Pattern.text, List.cons_append, List.append_assoc, List.cons_append,
        options_cons (by simp), if_pos rfl, inner, options_cons (by simp), if_neg (by decide),
        if_pos rfl, Nat.add_sub_cancel, outer]
      simp [List.modifyHead_modifyHead, Function.comp_def]

theorem options_alternatives (depth : Nat) (rest : List Char) :
    (inside : Alternatives) → options (depth + 1) (inside.text ++ rest) =
      (options (depth + 1) rest).modifyHead (inside.text ++ ·)
  | .last alternative => options_text (depth + 1) (Or.inl rfl) rest alternative
  | .cons alternative others => by
      have first := options_text (depth + 1) (Or.inl rfl) (',' :: (others.text ++ rest)) alternative
      have later := options_alternatives depth rest others
      rw [Alternatives.text, List.append_assoc, List.cons_append, first,
        options_cons (fun _ => depth.succ_ne_zero), if_neg (by decide), if_neg (by decide), later]
      simp [List.modifyHead_modifyHead, Function.comp_def]

end

/-- The options inside a group are its alternatives. -/
theorem options_inside : (inside : Alternatives) →
    options 0 inside.text = inside.toList.map Pattern.text
  | .last alternative => by
      have single := options_text 0 (Or.inl rfl) [] alternative
      simpa [Alternatives.text, Alternatives.toList, options] using single
  | .cons alternative others => by
      have first := options_text 0 (Or.inl rfl) (',' :: others.text) alternative
      rw [Alternatives.text, first, Alternatives.toList, List.map_cons, ← options_inside others]
      simp [options]

/-! ## Expansion -/

/-- A pattern is plain text, or plain text in front of its first group. -/
theorem Pattern.exists_leading {grouped : Bool} : (p : Pattern grouped) →
    ('{' ∉ p.text ∧ p.choices = [p.text]) ∨
      ∃ (before : List Char) (inside : Alternatives) (after : Pattern grouped),
        '{' ∉ before ∧ p.text = before ++ '{' :: (inside.text ++ '}' :: after.text) ∧
          p.choices = (inside.choices.flatMap fun chosen => after.choices.map (chosen ++ ·)).map
            (before ++ ·)
  | .nil => Or.inl ⟨List.not_mem_nil, rfl⟩
  | .group inside after => Or.inr ⟨[], inside, after, List.not_mem_nil, rfl, by simp [choices]⟩
  | .literal c plain rest => by
      rcases rest.exists_leading with ⟨absent, choices_eq⟩ |
        ⟨before, inside, after, absent, text_eq, choices_eq⟩
      · left
        refine ⟨?_, by simp [text, choices, choices_eq]⟩
        rw [text, List.mem_cons, not_or]
        exact ⟨plain.ne_open.symm, absent⟩
      · right
        refine ⟨c :: before, inside, after, ?_, by simp [text, text_eq], ?_⟩
        · rw [List.mem_cons, not_or]
          exact ⟨plain.ne_open.symm, absent⟩
        · rw [choices, choices_eq, List.map_map]
          rfl

/-- The groups in one alternative are among those of the whole group. -/
theorem Alternatives.count_le {p : Pattern true} : (inside : Alternatives) → p ∈ inside.toList →
    p.text.count '{' ≤ inside.text.count '{'
  | .last alternative, mem => by
      obtain rfl := List.mem_singleton.1 mem
      exact Nat.le_refl _
  | .cons alternative others, mem => by
      rw [text, List.count_append, List.count_cons_of_ne (by decide)]
      rcases List.mem_cons.1 mem with rfl | later
      · exact Nat.le_add_right _ _
      · exact (others.count_le later).trans (Nat.le_add_left _ _)

/-- Behind plain text a pattern expands to its choices, if there is an expansion for each of its
groups. -/
theorem expandUpTo_text {grouped : Bool} {fuel : Nat} {p : Pattern grouped} {before : List Char}
    (plain : '{' ∉ before) (enough : p.text.count '{' ≤ fuel) :
    expandUpTo fuel (before ++ p.text) = p.choices.map (before ++ ·) := by
  -- Pasting an alternative leaves one group fewer, as the brace in front of it is gone.
  induction fuel generalizing p before with
  | zero =>
      rcases p.exists_leading with ⟨-, choices_eq⟩ | ⟨lead, inside, after, -, text_eq, -⟩
      · simp [expandUpTo, choices_eq]
      · simp [text_eq] at enough
  | succ fuel ih =>
      rcases p.exists_leading with ⟨absent, choices_eq⟩ |
        ⟨lead, inside, after, absent, text_eq, choices_eq⟩
      · have bare : '{' ∉ before ++ p.text := by simp [plain, absent]
        rw [expandUpTo, cut?_of_not_mem bare, choices_eq]
        rfl
      · have front : '{' ∉ before ++ lead := by simp [plain, absent]
        have pasted : ∀ alternative ∈ inside.toList,
            expandUpTo fuel (before ++ lead ++ alternative.text ++ after.text) =
              (alternative.paste after).choices.map (before ++ lead ++ ·) := by
          intro alternative mem
          rw [List.append_assoc, ← Pattern.text_paste]
          apply ih front
          have fewer := inside.count_le mem
          rw [text_eq] at enough
          simp only [List.count_append, List.count_cons_self,
            List.count_cons_of_ne (show '}' ≠ '{' by decide)] at enough
          rw [Pattern.text_paste, List.count_append]
          omega
        rw [text_eq, ← List.append_assoc, expandUpTo, cut?_group front]
        simp only
        rw [options_inside, List.flatMap_map, List.flatMap_congr pasted, choices_eq,
          inside.choices_eq_flatMap]
        simp [Pattern.choices_paste, List.map_flatMap, List.flatMap_assoc, Function.comp_def]

/-- A well-nested pattern expands to its choices. -/
theorem expandText_text {grouped : Bool} (p : Pattern grouped) :
    expandText (String.ofList p.text) = p.choices.map String.ofList := by
  have expanded : expand p.text = p.choices := by
    simpa [expand] using expandUpTo_text (p := p) List.not_mem_nil (Nat.le_refl _)
  rw [expandText, String.toList_ofList, expanded]

/-- Both groups are chosen from, the first one slower, and repeats are kept. -/
example : expandText "a\x7b1,\x7b2,\x7d\x7d\x7b3,3\x7d" =
    ["a13", "a13", "a23", "a23", "a3", "a3"] := by decide

end EnvConcord.Glob.Brace

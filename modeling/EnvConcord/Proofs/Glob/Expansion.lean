import EnvConcord.Proofs.Glob.Choices

/-!
# Expansion of any pattern

Expansion pastes an option into a pattern and reads the text that comes out anew, which is no part
of the pattern.  But the braces around the group are gone from it and an option has no braces of
its own making, so an opening brace is lost with each step, whether the others match or not.  What
is left in the end has no group and expands to itself.
-/

namespace EnvConcord.Glob.Brace

/-! ## Matching braces -/

/-- A text closes `depth` braces that are open in front of it and all of its own, each behind the
place where it was opened. -/
structure ClosesBraces (depth : Nat) (cs : List Char) : Prop where
  count_eq : cs.count '}' = cs.count '{' + depth
  opened : ∀ front, front <+: cs → front.count '}' ≤ front.count '{' + depth

theorem closesBraces_nil_iff (depth : Nat) : ClosesBraces depth [] ↔ depth = 0 := by
  constructor
  · intro closes
    simpa [eq_comm] using closes.count_eq
  · rintro rfl
    exact ⟨rfl, by simp⟩

/-- Behind a character the rest has to close as many braces as are open then. -/
theorem closesBraces_cons_iff {c : Char} {depth inner : Nat}
    (shift : depth + (if c = '{' then 1 else 0) = inner + if c = '}' then 1 else 0)
    (rest : List Char) : ClosesBraces depth (c :: rest) ↔ ClosesBraces inner rest := by
  constructor
  · rintro ⟨count_eq, opened⟩
    constructor
    · simp only [List.count_cons, beq_iff_eq] at count_eq
      omega
    · intro front before
      have bound := opened (c :: front) (List.cons_prefix_cons.2 ⟨rfl, before⟩)
      simp only [List.count_cons, beq_iff_eq] at bound
      omega
  · rintro ⟨count_eq, opened⟩
    constructor
    · simp only [List.count_cons, beq_iff_eq]
      omega
    · intro front before
      rcases List.prefix_cons_iff.1 before with rfl | ⟨later, rfl, later_before⟩
      · simp
      · have bound := opened later later_before
        simp only [List.count_cons, beq_iff_eq]
        omega

/-- A text that closes braces begins with a character behind which some number is left to close. -/
theorem ClosesBraces.exists_inner {depth : Nat} {c : Char} {rest : List Char}
    (closes : ClosesBraces depth (c :: rest)) :
    ∃ inner, depth + (if c = '{' then 1 else 0) = inner + if c = '}' then 1 else 0 := by
  have first := closes.opened [c] (by simp)
  simp only [List.count_singleton, beq_iff_eq] at first
  refine ⟨depth + (if c = '{' then 1 else 0) - if c = '}' then 1 else 0, ?_⟩
  omega

/-- The search ends at a closing brace where none is open, and goes on behind any other
character. -/
theorem splitGroup?_cons_eq_some_iff (depth : Nat) (c : Char) (rest inside after : List Char) :
    splitGroup? depth (c :: rest) = some (inside, after) ↔
      (c = '}' ∧ depth = 0 ∧ inside = [] ∧ after = rest) ∨
        ∃ inner others, depth + (if c = '{' then 1 else 0) = inner + (if c = '}' then 1 else 0) ∧
          inside = c :: others ∧ splitGroup? inner rest = some (others, after) := by
  have continued : ∀ inner,
      (splitGroup? inner rest).map (fun group => (c :: group.1, group.2)) = some (inside, after) ↔
        ∃ others, inside = c :: others ∧ splitGroup? inner rest = some (others, after) := by
    intro inner
    rw [Option.map_eq_some_iff]
    constructor
    · rintro ⟨⟨others, left⟩, split_eq, pair_eq⟩
      obtain ⟨rfl, rfl⟩ := Prod.mk.inj pair_eq
      exact ⟨others, rfl, split_eq⟩
    · rintro ⟨others, rfl, split_eq⟩
      exact ⟨(others, after), split_eq, rfl⟩
  rw [splitGroup?.eq_def]
  simp only
  by_cases opens : c = '{'
  · rw [if_pos opens, continued]
    simp [opens]
  · by_cases shuts : c = '}'
    · cases depth with
      | zero => simp [shuts, eq_comm]
      | succ outer =>
          rw [if_neg opens, if_pos shuts, continued]
          simp [shuts]
    · rw [if_neg opens, if_neg shuts, continued]
      simp [opens, shuts]

/-- The inside of a group ends at the first brace that closes more than was opened in it. -/
theorem splitGroup?_eq_some_iff (depth : Nat) (cs inside after : List Char) :
    splitGroup? depth cs = some (inside, after) ↔
      cs = inside ++ '}' :: after ∧ ClosesBraces depth inside := by
  induction cs generalizing depth inside with
  | nil => simp [splitGroup?]
  | cons c rest ih =>
      rw [splitGroup?_cons_eq_some_iff]
      constructor
      · rintro (⟨rfl, rfl, rfl, rfl⟩ | ⟨inner, others, shift, rfl, split_eq⟩)
        · exact ⟨rfl, (closesBraces_nil_iff 0).2 rfl⟩
        · obtain ⟨rfl, closes⟩ := (ih inner others).1 split_eq
          exact ⟨rfl, (closesBraces_cons_iff shift others).2 closes⟩
      · rintro ⟨text_eq, closes⟩
        cases inside with
        | nil =>
            obtain ⟨rfl, rfl⟩ := List.cons.inj text_eq
            exact Or.inl ⟨rfl, (closesBraces_nil_iff depth).1 closes, rfl, rfl⟩
        | cons d others =>
            obtain ⟨rfl, rest_eq⟩ := List.cons.inj text_eq
            obtain ⟨inner, shift⟩ := closes.exists_inner
            have split_eq := (ih inner others).2
              ⟨rest_eq, (closesBraces_cons_iff shift others).1 closes⟩
            exact Or.inr ⟨inner, others, shift, rfl, split_eq⟩

/-! ## The first group -/

/-- The first group of a pattern is cut out: its braces match, and no brace opens before it. -/
theorem cut?_eq_some_iff (pattern : List Char) (cut : Cut) :
    cut? pattern = some cut ↔
      pattern = cut.before ++ '{' :: (cut.inside ++ '}' :: cut.after) ∧ '{' ∉ cut.before ∧
        ClosesBraces 0 cut.inside := by
  constructor
  · intro cut_eq
    have mem : '{' ∈ pattern := by
      by_contra absent
      rw [cut?_of_not_mem absent] at cut_eq
      contradiction
    obtain ⟨before, rest, rfl, plain⟩ := List.eq_append_cons_of_mem mem
    rw [cut?_append_cons plain, Option.map_eq_some_iff] at cut_eq
    obtain ⟨⟨inside, after⟩, split_eq, rfl⟩ := cut_eq
    obtain ⟨rfl, closes⟩ := (splitGroup?_eq_some_iff 0 rest inside after).1 split_eq
    exact ⟨rfl, plain, closes⟩
  · rcases cut with ⟨before, inside, after⟩
    rintro ⟨rfl, plain, closes⟩
    rw [cut?_append_cons plain, (splitGroup?_eq_some_iff 0 _ inside after).2 ⟨rfl, closes⟩]
    rfl

/-- The first opening brace of a pattern has no counterpart. -/
def IsUnmatched (pattern : List Char) : Prop :=
  ∃ before rest, pattern = before ++ '{' :: rest ∧ '{' ∉ before ∧
    ¬∃ inside after, rest = inside ++ '}' :: after ∧ ClosesBraces 0 inside

/-- A pattern without a group has no opening brace, or its first one has no counterpart. -/
theorem cut?_eq_none_iff (pattern : List Char) :
    cut? pattern = none ↔ '{' ∉ pattern ∨ IsUnmatched pattern := by
  constructor
  · intro whole
    by_cases mem : '{' ∈ pattern
    · obtain ⟨before, rest, rfl, plain⟩ := List.eq_append_cons_of_mem mem
      refine Or.inr ⟨before, rest, rfl, plain, ?_⟩
      rintro ⟨inside, after, rfl, closes⟩
      rw [(cut?_eq_some_iff _ ⟨before, inside, after⟩).2 ⟨rfl, plain, closes⟩] at whole
      contradiction
    · exact Or.inl mem
  · rintro (absent | ⟨before, rest, rfl, plain, unmatched⟩)
    · exact cut?_of_not_mem absent
    · rw [cut?_append_cons plain, Option.map_eq_none_iff, Option.eq_none_iff_forall_ne_some]
      rintro ⟨inside, after⟩ split_eq
      exact unmatched ⟨inside, after, (splitGroup?_eq_some_iff 0 rest inside after).1 split_eq⟩

/-! ## One group less -/

theorem options_comma (rest : List Char) : options 0 (',' :: rest) = [] :: options 0 rest := by
  simp [options]

/-- An option leaves out characters only. -/
theorem sublist_of_mem_options {depth : Nat} {cs option : List Char}
    (mem : option ∈ options depth cs) : option.Sublist cs := by
  induction cs generalizing depth option with
  | nil =>
      obtain rfl : option = [] := by simpa [options] using mem
      exact List.Sublist.refl []
  | cons c rest ih =>
      by_cases joins : c = ',' → depth ≠ 0
      · rw [options_cons joins] at mem
        generalize (if c = '{' then depth + 1 else if c = '}' then depth - 1 else depth) = inner
          at mem
        cases found : options inner rest with
        | nil => exact absurd found (options_ne_nil inner rest)
        | cons first others =>
            rw [found, List.modifyHead_cons, List.mem_cons] at mem
            rcases mem with rfl | later
            · exact (ih (found ▸ List.mem_cons_self)).cons_cons c
            · exact (ih (found ▸ List.mem_cons_of_mem first later)).cons c
      · obtain ⟨rfl, rfl⟩ : c = ',' ∧ depth = 0 := by simpa using joins
        rw [options_comma, List.mem_cons] at mem
        rcases mem with rfl | later
        · exact List.nil_sublist _
        · exact (ih later).cons ','

/-- What stands before and behind a group with an option in its place. -/
def Cut.paste (cut : Cut) (option : List Char) : List Char := cut.before ++ option ++ cut.after

/-- Pasting an option leaves one opening brace less. -/
theorem count_paste_lt {pattern : List Char} {cut : Cut} (cut_eq : cut? pattern = some cut)
    {option : List Char} (mem : option ∈ options 0 cut.inside) :
    (cut.paste option).count '{' < pattern.count '{' := by
  obtain ⟨rfl, -, -⟩ := (cut?_eq_some_iff pattern cut).1 cut_eq
  have fewer : option.count '{' ≤ cut.inside.count '{' :=
    (sublist_of_mem_options mem).count_le '{'
  simp only [Cut.paste, List.count_append, List.count_cons_self,
    List.count_cons_of_ne (show '}' ≠ '{' by decide)]
  omega

/-- Patterns are built from patterns without a group by undoing one expansion at a time. -/
theorem induction_on_groups {motive : List Char → Prop}
    (whole : ∀ pattern, cut? pattern = none → motive pattern)
    (group : ∀ pattern cut, cut? pattern = some cut →
      (∀ option ∈ options 0 cut.inside, motive (cut.paste option)) → motive pattern)
    (pattern : List Char) : motive pattern := by
  induction braces : pattern.count '{' using Nat.strongRecOn generalizing pattern with
  | ind braces ih =>
      subst braces
      cases cut_eq : cut? pattern with
      | none => exact whole pattern cut_eq
      | some cut =>
          refine group pattern cut cut_eq fun option mem => ?_
          exact ih _ (count_paste_lt cut_eq mem) _ rfl

/-! ## Expansion -/

theorem expandUpTo_of_whole {pattern : List Char} (whole : cut? pattern = none) (fuel : Nat) :
    expandUpTo fuel pattern = [pattern] := by
  cases fuel with
  | zero => rfl
  | succ fuel => rw [expandUpTo, whole]

/-- The bound on the steps does not matter, as long as there is one for each opening brace. -/
theorem expandUpTo_eq_of_le (pattern : List Char) {fuel fuel' : Nat}
    (enough : pattern.count '{' ≤ fuel) (enough' : pattern.count '{' ≤ fuel') :
    expandUpTo fuel pattern = expandUpTo fuel' pattern := by
  induction pattern using induction_on_groups generalizing fuel fuel' with
  | whole pattern whole => rw [expandUpTo_of_whole whole, expandUpTo_of_whole whole]
  | group pattern cut cut_eq ih =>
      have opens : 0 < pattern.count '{' := by
        obtain ⟨rfl, -⟩ := (cut?_eq_some_iff pattern cut).1 cut_eq
        exact List.count_pos_iff.2 (by simp)
      obtain ⟨fuel, rfl⟩ := Nat.exists_eq_add_of_le' (opens.trans_le enough)
      obtain ⟨fuel', rfl⟩ := Nat.exists_eq_add_of_le' (opens.trans_le enough')
      rw [expandUpTo, expandUpTo, cut_eq]
      apply List.flatMap_congr
      intro option mem
      have fewer := count_paste_lt cut_eq mem
      exact ih option mem (Nat.le_of_lt_succ (fewer.trans_le enough))
        (Nat.le_of_lt_succ (fewer.trans_le enough'))

theorem expand_of_whole {pattern : List Char} (whole : cut? pattern = none) :
    expand pattern = [pattern] :=
  expandUpTo_of_whole whole _

/-- A group expands to the expansions of the pattern with each of its options. -/
theorem expand_of_cut {pattern : List Char} {cut : Cut} (cut_eq : cut? pattern = some cut) :
    expand pattern = (options 0 cut.inside).flatMap fun option => expand (cut.paste option) := by
  rw [expand, expandUpTo_eq_of_le pattern (Nat.le_refl _) (Nat.le_succ _), expandUpTo, cut_eq]
  apply List.flatMap_congr
  intro option mem
  exact expandUpTo_eq_of_le _ (count_paste_lt cut_eq mem).le (Nat.le_refl _)

/-- The recursion on a pattern ends with some patterns: it has no group, or the recursion on the
pattern with each option of its first group ends. -/
inductive Ends : List Char → List (List Char) → Prop
  | whole {pattern : List Char} (whole : cut? pattern = none) : Ends pattern [pattern]
  | group {pattern : List Char} {cut : Cut} (cut_eq : cut? pattern = some cut)
      (results : List Char → List (List Char))
      (each : ∀ option ∈ options 0 cut.inside, Ends (cut.paste option) (results option)) :
      Ends pattern ((options 0 cut.inside).flatMap results)

/-- The recursion ends on every pattern, and with nothing but the expansion. -/
theorem ends_iff (pattern : List Char) (results : List (List Char)) :
    Ends pattern results ↔ results = expand pattern := by
  constructor
  · intro ends
    induction ends with
    | whole whole => exact (expand_of_whole whole).symm
    | group cut_eq results _ ih =>
        rw [expand_of_cut cut_eq]
        exact List.flatMap_congr ih
  · rintro rfl
    induction pattern using induction_on_groups with
    | whole pattern whole =>
        rw [expand_of_whole whole]
        exact Ends.whole whole
    | group pattern cut cut_eq ih =>
        rw [expand_of_cut cut_eq]
        exact Ends.group cut_eq _ ih

theorem expand_ne_nil (pattern : List Char) : expand pattern ≠ [] := by
  induction pattern using induction_on_groups with
  | whole pattern whole =>
      rw [expand_of_whole whole]
      exact List.cons_ne_nil _ _
  | group pattern cut cut_eq ih =>
      obtain ⟨option, mem⟩ := List.exists_mem_of_ne_nil _ (options_ne_nil 0 cut.inside)
      rw [expand_of_cut cut_eq, ne_eq, List.flatMap_eq_nil_iff]
      exact fun none_left => ih option mem (none_left option mem)

/-- What a pattern expands to has no group. -/
theorem cut?_of_mem_expand {pattern result : List Char} (mem : result ∈ expand pattern) :
    cut? result = none := by
  induction pattern using induction_on_groups with
  | whole pattern whole =>
      rw [expand_of_whole whole, List.mem_singleton] at mem
      rwa [mem]
  | group pattern cut cut_eq ih =>
      rw [expand_of_cut cut_eq, List.mem_flatMap] at mem
      obtain ⟨option, option_mem, mem⟩ := mem
      exact ih option option_mem mem

/-- A pattern expands to itself alone exactly if it has no group. -/
theorem expand_eq_singleton_iff (pattern : List Char) :
    expand pattern = [pattern] ↔ cut? pattern = none := by
  constructor
  · intro expand_eq
    exact cut?_of_mem_expand (expand_eq ▸ List.mem_singleton_self pattern)
  · exact expand_of_whole

/-! ## Texts -/

theorem expandText_eq_singleton_iff (pattern : String) :
    expandText pattern = [pattern] ↔ cut? pattern.toList = none := by
  have text_eq : [pattern] = [pattern.toList].map String.ofList := by simp
  rw [← expand_eq_singleton_iff, expandText, text_eq,
    (List.map_injective_iff.2 fun _ _ => String.ofList_injective).eq_iff]

theorem expandText_of_mem {pattern result : String} (mem : result ∈ expandText pattern) :
    expandText result = [result] := by
  obtain ⟨cs, cs_mem, rfl⟩ := List.mem_map.1 mem
  rw [expandText_eq_singleton_iff, String.toList_ofList]
  exact cut?_of_mem_expand cs_mem

/-- Expansion has led from a pattern to some normal forms. -/
structure ExpandsFully (pattern : String) (results : List String) : Prop where
  ends : ∀ texts, Ends pattern.toList texts ↔ texts = results.map String.toList
  nonempty : results ≠ []
  normal : ∀ result ∈ results, expandText result = [result]
  itself_iff : results = [pattern] ↔ '{' ∉ pattern.toList ∨ IsUnmatched pattern.toList

/-- The expansion of any pattern, with balanced braces or without, ends; there is some result, and
every result expands to itself alone.  The pattern itself is the result exactly if no brace opens
in it or nothing matches its first brace. -/
theorem expandText_expandsFully (pattern : String) :
    ExpandsFully pattern (expandText pattern) := by
  constructor
  · intro texts
    rw [ends_iff, expandText, List.map_map]
    simp [Function.comp_def]
  · simpa [expandText] using expand_ne_nil pattern.toList
  · intro result mem
    exact expandText_of_mem mem
  · rw [expandText_eq_singleton_iff, cut?_eq_none_iff]

/-- The first brace is never closed, so the group inside is not expanded either. -/
example :
    expandText "x\x7d\x7ba,\x7bb\x7d\x7bc" = ["x\x7d\x7ba,\x7bb\x7d\x7bc"] := by decide

end EnvConcord.Glob.Brace

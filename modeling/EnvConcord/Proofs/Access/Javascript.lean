import EnvConcord.Proofs.Access.Forms
import EnvConcord.Proofs.Access.Occurrences

/-!
# Accesses through `process.env`, position by position

What a JavaScript scan records at a position of a line is settled by the text that
stands there: a subscript gives one usage, static or computed, a member access at most
one, and no other position gives any.
-/

namespace EnvConcord.Access

/-! ## The grammar of accesses -/

/-- A subscript access at an offset of a line, cut at its first closing bracket. -/
structure SubscriptAt (cs : List Char) (i : Nat) (inner after : List Char) : Prop where
  drop_eq : cs.drop i = "process.env[".toList ++ (inner ++ ']' :: after)
  first : ']' ∉ inner

/-- A member access at an offset of a line, with the longest run of name parts. -/
structure MemberAt (cs : List Char) (i : Nat) (run after : List Char) : Prop where
  drop_eq : cs.drop i = "process.env.".toList ++ (run ++ after)
  parts : ∀ c ∈ run, IsNamePart c
  longest : ∀ c, after.head? = some c → ¬IsNamePart c

theorem SubscriptAt.lt_length {cs inner after : List Char} {i : Nat}
    (subscript : SubscriptAt cs i inner after) : i < cs.length := by
  apply lt_length_of_drop_ne_nil
  rw [subscript.drop_eq]
  simp

theorem MemberAt.lt_length {cs run after : List Char} {i : Nat}
    (member : MemberAt cs i run after) : i < cs.length := by
  apply lt_length_of_drop_ne_nil
  rw [member.drop_eq]
  simp

/-- A subscript with a later closing bracket can be cut at the first one. -/
theorem exists_subscriptAt {cs body : List Char} {i : Nat}
    (drop_eq : cs.drop i = "process.env[".toList ++ body) (closed : ']' ∈ body) :
    ∃ inner after, SubscriptAt cs i inner after := by
  rcases List.eq_append_cons_of_mem closed with ⟨inner, after, rfl, first⟩
  exact ⟨inner, after, drop_eq, first⟩

/-- Every member access can be cut behind its longest run. -/
theorem exists_memberAt {cs body : List Char} {i : Nat}
    (drop_eq : cs.drop i = "process.env.".toList ++ body) :
    ∃ run after, MemberAt cs i run after := by
  refine ⟨body.takeWhile isKeyChar, body.dropWhile isKeyChar, ?_, ?_, ?_⟩
  · rw [List.takeWhile_append_dropWhile, drop_eq]
  · intro c inside
    exact (isKeyChar_iff c).1 (List.mem_takeWhile_imp inside)
  · intro c next
    have stop := List.head?_dropWhile_not isKeyChar body
    rw [next] at stop
    rw [← isKeyChar_iff]
    simpa using stop

/-- The inside of a subscript is a key between two equal quotes. -/
def IsLiteral (inner key : List Char) : Prop :=
  ∃ quote, IsQuote quote ∧ inner = quote :: (key ++ [quote]) ∧ IsName key

/-- A run of name parts is a key of its own: it does not begin with a digit, and no
lower-case letter or dollar sign follows. -/
structure IsBareKey (run after : List Char) : Prop where
  nonempty : run ≠ []
  begins : ∀ c, run.head? = some c → ¬('0' ≤ c ∧ c ≤ '9')
  ends : ∀ c, after.head? = some c → ¬IsNameMore c

/-- `||` or `??` follows, behind blanks only. -/
def FallbackFollows (after : List Char) : Prop :=
  ∃ blanks rest, after = blanks ++ rest ∧ (∀ c ∈ blanks, Text.isBlank c = true) ∧
    ("||".toList <+: rest ∨ "??".toList <+: rest)

theorem coalescing_iff (after : List Char) :
    (Dialect.coalescing.any fun marks => marksFollow marks after) = true ↔
      FallbackFollows after := by
  have bars : marksFollow [.symbol "||"] after = true ↔ _ :=
    marksFollow_symbol_iff "||" '|' rfl (by decide) after
  have queries : marksFollow [.symbol "??"] after = true ↔ _ :=
    marksFollow_symbol_iff "??" '?' rfl (by decide) after
  simp only [Dialect.coalescing, List.any_cons, List.any_nil, Bool.or_false, Bool.or_eq_true,
    bars, queries, FallbackFollows]
  constructor
  · rintro (⟨blanks, rest, split_eq, blank, starts⟩ | ⟨blanks, rest, split_eq, blank, starts⟩)
    · exact ⟨blanks, rest, split_eq, blank, Or.inl starts⟩
    · exact ⟨blanks, rest, split_eq, blank, Or.inr starts⟩
  · rintro ⟨blanks, rest, split_eq, blank, starts | starts⟩
    · exact Or.inl ⟨blanks, rest, split_eq, blank, starts⟩
    · exact Or.inr ⟨blanks, rest, split_eq, blank, starts⟩

instance (after : List Char) : Decidable (FallbackFollows after) :=
  decidable_of_iff _ (coalescing_iff after)

theorem IsBareKey.isName {run after : List Char} (bare : IsBareKey run after)
    (parts : ∀ c ∈ run, IsNamePart c) : IsName run := by
  refine ⟨?_, parts⟩
  cases run with
  | nil => exact absurd rfl bare.nonempty
  | cons first rest =>
      refine ⟨first, rfl, ?_⟩
      rcases parts first (by simp) with start | digit
      · exact start
      · exact absurd digit (bare.begins first rfl)

theorem isBareKey_of_isName {run after : List Char} (name : IsName run)
    (ends : ∀ c, after.head? = some c → ¬IsNameMore c) : IsBareKey run after := by
  rcases (isName_iff_cons run).1 name with ⟨first, rest, rfl, start, -⟩
  refine ⟨by simp, fun c begins digit => ?_, ends⟩
  obtain rfl : first = c := by simpa using begins
  rcases start with ⟨low, -⟩ | rfl
  · exact absurd (Char.le_trans low digit.2) (by decide)
  · exact absurd digit.2 (by decide)

/-! ## The forms -/

/-- The form of member accesses. -/
def memberForm : StaticForm where
  kind := .direct
  openings := ["process.env."]
  place := .bare
  fallbacks := Dialect.coalescing

/-- The form of subscripts with a literal key. -/
def literalForm : StaticForm where
  kind := .bracket
  openings := ["process.env["]
  place := .subscript
  fallbacks := Dialect.coalescing

/-- The form of subscripts with any expression. -/
def subscriptForm : ComputedForm where
  openings := ["process.env["]
  closer := ']'
  place := .subscript

theorem occurrencesAt_javascript (file : String) (line column : Nat) (rest : List Char) :
    occurrencesAt .javascript file line column rest =
      (ComputedForm.match? subscriptForm rest).toList.map (computedOccurrence file line column) ++
      ((StaticForm.match? memberForm rest).toList.map (staticOccurrence .direct file line column) ++
        (StaticForm.match? literalForm rest).toList.map
          (staticOccurrence .bracket file line column)) := by
  simp only [occurrencesAt, Dialect.javascript, List.flatMap_cons, List.flatMap_nil,
    List.append_nil]
  rfl

theorem opened_member (body : List Char) :
    afterOpening? memberForm.openings ("process.env.".toList ++ body) = some body :=
  (afterOpening?_singleton_eq_some_iff _ _ _).2 rfl

theorem opened_subscript (body : List Char) :
    afterOpening? ["process.env["] ("process.env[".toList ++ body) = some body :=
  (afterOpening?_singleton_eq_some_iff _ _ _).2 rfl

/-! ## Member accesses -/

theorem read?_bare_of_longest {run after : List Char} (parts : ∀ c ∈ run, IsNamePart c)
    (longest : ∀ c, after.head? = some c → ¬IsNamePart c) (key rest : List Char) :
    KeyPlace.read? .bare (run ++ after) = some (key, rest) ↔
      (key = run ∧ rest = after) ∧ IsBareKey run after := by
  rw [read?_bare_eq_some_iff]
  constructor
  · rintro ⟨text_eq, name, stop⟩
    rcases longest_run parts longest with ⟨run_eq, after_eq⟩
    rcases longest_run name.continues fun c next => (stop c next).1 with ⟨key_eq, rest_eq⟩
    rw [← text_eq] at key_eq rest_eq
    obtain rfl : key = run := key_eq.symm.trans run_eq
    obtain rfl : rest = after := rest_eq.symm.trans after_eq
    exact ⟨⟨rfl, rfl⟩, isBareKey_of_isName name fun c next => (stop c next).2⟩
  · rintro ⟨⟨rfl, rfl⟩, bare⟩
    exact ⟨rfl, bare.isName parts, fun c next => ⟨longest c next, bare.ends c next⟩⟩

theorem fallbacks_eq (after : List Char) :
    (Dialect.coalescing.any fun marks => marksFollow marks after) =
      decide (FallbackFollows after) := by
  rw [Bool.eq_iff_iff, coalescing_iff, decide_eq_true_eq]

theorem occurrencesAt_member_eq (file : String) (line column : Nat) (body : List Char) :
    occurrencesAt .javascript file line column ("process.env.".toList ++ body) =
      (StaticForm.match? memberForm ("process.env.".toList ++ body)).toList.map
        (staticOccurrence .direct file line column) := by
  have no_subscript : afterOpening? ["process.env["] ("process.env.".toList ++ body) = none :=
    afterOpening?_of_apart (by decide) body
  rw [occurrencesAt_javascript, computed_match?_of_unopened no_subscript,
    match?_of_unopened literalForm no_subscript]
  simp

section Member

variable {run after : List Char}

/-- A member access that is a key of its own is one static occurrence. -/
theorem occurrencesAt_bareKey (file : String) (line column : Nat)
    (parts : ∀ c ∈ run, IsNamePart c) (longest : ∀ c, after.head? = some c → ¬IsNamePart c)
    (bare : IsBareKey run after) :
    occurrencesAt .javascript file line column ("process.env.".toList ++ (run ++ after)) =
      [staticOccurrence .direct file line column
        { key := run
          raw := "process.env.".toList ++ run
          isOptional := decide (FallbackFollows after) }] := by
  have read := (read?_bare_of_longest parts longest run after).2 ⟨⟨rfl, rfl⟩, bare⟩
  rw [occurrencesAt_member_eq, match?_of_read memberForm (opened_member _) read]
  simp [memberForm, fallbacks_eq]

/-- Any other member access is no occurrence. -/
theorem occurrencesAt_eq_nil_of_not_bareKey (file : String) (line column : Nat)
    (parts : ∀ c ∈ run, IsNamePart c) (longest : ∀ c, after.head? = some c → ¬IsNamePart c)
    (runs_on : ¬IsBareKey run after) :
    occurrencesAt .javascript file line column ("process.env.".toList ++ (run ++ after)) =
      [] := by
  have unread : KeyPlace.read? .bare (run ++ after) = none := by
    rw [Option.eq_none_iff_forall_ne_some]
    rintro ⟨key, rest⟩ read
    exact runs_on ((read?_bare_of_longest parts longest key rest).1 read).2
  rw [occurrencesAt_member_eq, match?_of_read_none memberForm (opened_member _) unread]
  rfl

end Member

/-! ## Subscripts -/

theorem IsLiteral.not_mem {inner key : List Char} (literal : IsLiteral inner key) :
    ']' ∉ inner := by
  rcases literal with ⟨quote, quoted, rfl, name⟩
  have absent := name.not_mem (c := ']') (by decide)
  rcases quoted with rfl | rfl <;> simp [absent]

theorem read?_subscript_of_first {inner : List Char} (first : ']' ∉ inner)
    (after key rest : List Char) :
    KeyPlace.read? .subscript (inner ++ ']' :: after) = some (key, rest) ↔
      rest = after ∧ IsLiteral inner key := by
  rw [read?_subscript_eq_some_iff]
  constructor
  · rintro ⟨quote, quoted, text_eq, name⟩
    have literal : IsLiteral (quote :: (key ++ [quote])) key := ⟨quote, quoted, rfl, name⟩
    have cut_eq : inner ++ ']' :: after = quote :: (key ++ [quote]) ++ ']' :: rest := by
      simpa using text_eq
    rcases append_cons_inj_of_not_mem first literal.not_mem cut_eq with ⟨rfl, rfl⟩
    exact ⟨rfl, literal⟩
  · rintro ⟨rfl, quote, quoted, rfl, name⟩
    exact ⟨quote, quoted, by simp, name⟩

theorem occurrencesAt_subscript_eq (file : String) (line column : Nat) (body : List Char) :
    occurrencesAt .javascript file line column ("process.env[".toList ++ body) =
      (ComputedForm.match? subscriptForm ("process.env[".toList ++ body)).toList.map
          (computedOccurrence file line column) ++
        (StaticForm.match? literalForm ("process.env[".toList ++ body)).toList.map
          (staticOccurrence .bracket file line column) := by
  have no_member : afterOpening? ["process.env."] ("process.env[".toList ++ body) = none :=
    afterOpening?_of_apart (by decide) body
  rw [occurrencesAt_javascript, match?_of_unopened memberForm no_member]
  simp

/-- An expression is literal for the computed form exactly if it is a quoted key. -/
theorem isLiteral_subscriptForm_iff {inner : List Char} (first : ']' ∉ inner) :
    ComputedForm.isLiteral subscriptForm ("process.env[".toList ++ (inner ++ [']'])) = true ↔
      ∃ key, IsLiteral inner key := by
  have read_iff := read?_subscript_of_first first []
  simp only [ComputedForm.isLiteral, subscriptForm, opened_subscript]
  constructor
  · intro literal
    split at literal
    next => contradiction
    next key rest read => exact ⟨key, ((read_iff key rest).1 read).2⟩
  · rintro ⟨key, literal⟩
    rw [(read_iff key []).2 ⟨rfl, literal⟩]
    rfl

theorem upTo?_subscript {inner : List Char} (first : ']' ∉ inner) (after : List Char) :
    upTo? ']' ("process.env[".toList ++ (inner ++ ']' :: after)) =
      some ("process.env[".toList ++ (inner ++ [']'])) :=
  upTo?_opening (by decide) first after

/-- A subscript with a quoted key in it is one static occurrence. -/
theorem occurrencesAt_literal (file : String) (line column : Nat) {inner key : List Char}
    (literal : IsLiteral inner key) (after : List Char) :
    occurrencesAt .javascript file line column
        ("process.env[".toList ++ (inner ++ ']' :: after)) =
      [staticOccurrence .bracket file line column
        { key
          raw := "process.env[".toList ++ (inner ++ [']'])
          isOptional := decide (FallbackFollows after) }] := by
  have first := literal.not_mem
  have no_computed : ComputedForm.match? subscriptForm
      ("process.env[".toList ++ (inner ++ ']' :: after)) = none := by
    apply computed_match?_of_literal
    intro expression up
    obtain rfl := Option.some.inj ((upTo?_subscript first after).symm.trans up)
    exact (isLiteral_subscriptForm_iff first).2 ⟨key, literal⟩
  have text_eq : inner ++ ']' :: after = (inner ++ [']']) ++ after := by simp
  have read := (read?_subscript_of_first first after key after).2 ⟨rfl, literal⟩
  rw [text_eq] at read
  rw [occurrencesAt_subscript_eq, no_computed, text_eq,
    match?_of_read literalForm (opened_subscript _) read]
  simp [literalForm, fallbacks_eq]

/-- Any other subscript is one computed occurrence. -/
theorem occurrencesAt_computed (file : String) (line column : Nat) {inner : List Char}
    (first : ']' ∉ inner) (no_key : ¬∃ key, IsLiteral inner key) (after : List Char) :
    occurrencesAt .javascript file line column
        ("process.env[".toList ++ (inner ++ ']' :: after)) =
      [computedOccurrence file line column ("process.env[".toList ++ (inner ++ [']']))] := by
  have computed : ComputedForm.match? subscriptForm
      ("process.env[".toList ++ (inner ++ ']' :: after)) =
        some ("process.env[".toList ++ (inner ++ [']'])) := by
    refine (computed_match?_eq_some_iff subscriptForm _ _).2
      ⟨⟨_, opened_subscript _⟩, upTo?_subscript first after, ?_⟩
    rw [← Bool.not_eq_true, isLiteral_subscriptForm_iff first]
    exact no_key
  have unread : KeyPlace.read? .subscript (inner ++ ']' :: after) = none := by
    rw [Option.eq_none_iff_forall_ne_some]
    rintro ⟨key, rest⟩ read
    exact no_key ⟨key, ((read?_subscript_of_first first after key rest).1 read).2⟩
  rw [occurrencesAt_subscript_eq, computed,
    match?_of_read_none literalForm (opened_subscript _) unread]
  rfl

/-- Occurrences begin at accesses only. -/
theorem access_of_mem_occurrencesAt {file : String} {line column i : Nat} {cs : List Char}
    {found : Occurrence}
    (mem : found ∈ occurrencesAt .javascript file line column (cs.drop i)) :
    (∃ inner after, SubscriptAt cs i inner after) ∨ ∃ run after, MemberAt cs i run after := by
  rw [occurrencesAt_javascript, List.mem_append, List.mem_append] at mem
  rcases mem with computed | member | literal
  · rcases List.mem_map.1 computed with ⟨expression, recognised, -⟩
    obtain ⟨⟨body, opened⟩, up, -⟩ :=
      (computed_match?_eq_some_iff subscriptForm _ _).1 (Option.mem_toList.1 recognised)
    have body_eq := (afterOpening?_singleton_eq_some_iff _ _ _).1 opened
    rw [body_eq] at up
    have inside : ']' ∈ body := mem_of_upTo?_opening (by decide) up
    exact Or.inl (exists_subscriptAt body_eq inside)
  · rcases List.mem_map.1 member with ⟨content, recognised, -⟩
    obtain ⟨body, rest, opened, -⟩ :=
      (match?_eq_some_iff memberForm _ _).1 (Option.mem_toList.1 recognised)
    exact Or.inr (exists_memberAt ((afterOpening?_singleton_eq_some_iff _ _ _).1 opened))
  · rcases List.mem_map.1 literal with ⟨content, recognised, -⟩
    obtain ⟨body, rest, opened, read, -⟩ :=
      (match?_eq_some_iff literalForm _ _).1 (Option.mem_toList.1 recognised)
    rcases (read?_subscript_eq_some_iff _ _ _).1 read with ⟨quote, -, rfl, -⟩
    exact Or.inl
      (exists_subscriptAt ((afterOpening?_singleton_eq_some_iff _ _ _).1 opened) (by simp))

/-! ## Scans -/

/-- A JavaScript scan is exact.  At a subscript with a later closing bracket stands exactly
one usage, which is static exactly if a key between equal quotes is all of the subscript;
at a member access stands exactly one usage if its run of name parts is a key of its own,
and none otherwise; and there are no other usages.  A static usage is optional exactly if
a fallback follows, a computed one never. -/
theorem scan_javascript_exact (file text : String) :
    (∀ (k i : Nat) (cs inner after : List Char), (Text.lines text.toList)[k]? = some cs →
      SubscriptAt cs i inner after →
      (∀ key, IsLiteral inner key →
        usagesAt (recorded (scan .javascript file text)) (k + 1) (i + 1) =
          [(String.ofList key,
            { file, line := k + 1, column := i + 1, kind := .bracket
              rawText := String.ofList ("process.env[".toList ++ (inner ++ [']']))
              isOptional := decide (FallbackFollows after) })]) ∧
      ((¬∃ key, IsLiteral inner key) →
        usagesAt (recorded (scan .javascript file text)) (k + 1) (i + 1) =
          [(computedName file (k + 1 : Nat) (i + 1 : Nat),
            { file, line := k + 1, column := i + 1, kind := .computed
              rawText := String.ofList ("process.env[".toList ++ (inner ++ [']']))
              isOptional := false })])) ∧
    (∀ (k i : Nat) (cs run after : List Char), (Text.lines text.toList)[k]? = some cs →
      MemberAt cs i run after →
      (IsBareKey run after →
        usagesAt (recorded (scan .javascript file text)) (k + 1) (i + 1) =
          [(String.ofList run,
            { file, line := k + 1, column := i + 1, kind := .direct
              rawText := String.ofList ("process.env.".toList ++ run)
              isOptional := decide (FallbackFollows after) })]) ∧
      (¬IsBareKey run after →
        usagesAt (recorded (scan .javascript file text)) (k + 1) (i + 1) = [])) ∧
    ∀ item ∈ recorded (scan .javascript file text),
      ∃ (k i : Nat) (cs : List Char), (Text.lines text.toList)[k]? = some cs ∧
        item.2.file = file ∧ item.2.line = k + 1 ∧ item.2.column = i + 1 ∧
        ((∃ inner after, SubscriptAt cs i inner after) ∨
          ∃ run after, MemberAt cs i run after) := by
  refine ⟨?_, ?_, ?_⟩
  · intro k i cs inner after at_k subscript
    have perm := usagesAt_scan_perm .javascript file text at_k subscript.lt_length
    rw [subscript.drop_eq] at perm
    constructor
    · intro key literal
      rw [occurrencesAt_literal file (k + 1) (i + 1) literal after] at perm
      exact List.perm_singleton.1 perm
    · intro no_key
      rw [occurrencesAt_computed file (k + 1) (i + 1) subscript.first no_key after] at perm
      exact List.perm_singleton.1 perm
  · intro k i cs run after at_k member
    have perm := usagesAt_scan_perm .javascript file text at_k member.lt_length
    rw [member.drop_eq] at perm
    have of_run := fun bare =>
      occurrencesAt_bareKey file (k + 1) (i + 1) member.parts member.longest bare
    have of_none := fun runs_on =>
      occurrencesAt_eq_nil_of_not_bareKey file (k + 1) (i + 1) member.parts member.longest runs_on
    constructor
    · intro bare
      rw [of_run bare] at perm
      exact List.perm_singleton.1 perm
    · intro runs_on
      rw [of_none runs_on] at perm
      exact List.perm_nil.1 perm
  · intro item mem
    have of_occurrence := (recorded_collect_perm _).mem_iff.1 mem
    rcases List.mem_map.1 of_occurrence with ⟨found, found_mem, rfl⟩
    rcases (mem_occurrences_iff _ _ _ _).1 found_mem with ⟨k, cs, i, at_k, -, here⟩
    rcases place_of_mem_occurrencesAt here with ⟨file_eq, line_eq, column_eq⟩
    exact ⟨k, i, cs, at_k, file_eq, line_eq, column_eq, access_of_mem_occurrencesAt here⟩

end EnvConcord.Access

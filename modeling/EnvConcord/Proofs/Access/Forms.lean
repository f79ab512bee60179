import EnvConcord.Access.Dialect
import EnvConcord.Proofs.Text.Lines
import EnvConcord.Proofs.Text.Trim

/-!
# Access forms and their grammar

The recognisers of the access forms are compared with the grammar they stand for: keys
by the characters they are made of, quoted keys and bare keys by the text around them,
and fallbacks by the marks that follow.  Each comparison is an equivalence.
-/

namespace EnvConcord.Access

/-! ## Keys -/

/-- A capital letter or an underscore. -/
def IsNameStart (c : Char) : Prop := ('A' ≤ c ∧ c ≤ 'Z') ∨ c = '_'

/-- A capital letter, an underscore or a digit. -/
def IsNamePart (c : Char) : Prop := IsNameStart c ∨ ('0' ≤ c ∧ c ≤ '9')

/-- A lower-case letter or a dollar sign, which makes a key part of a longer name. -/
def IsNameMore (c : Char) : Prop := ('a' ≤ c ∧ c ≤ 'z') ∨ c = '$'

/-- A static key: a name start, then name parts. -/
structure IsName (key : List Char) : Prop where
  begins : ∃ first, key.head? = some first ∧ IsNameStart first
  continues : ∀ c ∈ key, IsNamePart c

theorem isUpper_iff (c : Char) : c.isUpper = true ↔ 'A' ≤ c ∧ c ≤ 'Z' := decide_eq_true_iff

theorem isLower_iff (c : Char) : c.isLower = true ↔ 'a' ≤ c ∧ c ≤ 'z' :=
  Bool.and_eq_true_iff.trans (and_congr decide_eq_true_iff decide_eq_true_iff)

theorem isAlpha_iff (c : Char) : c.isAlpha = true ↔ c.isUpper = true ∨ c.isLower = true :=
  Bool.or_eq_true_iff

theorem isDigit_iff (c : Char) : c.isDigit = true ↔ '0' ≤ c ∧ c ≤ '9' := by
  simp only [Char.isDigit, Bool.and_eq_true, decide_eq_true_eq, Char.le_def, ge_iff_le]

theorem isKeyStart_iff (c : Char) : isKeyStart c = true ↔ IsNameStart c := by
  simp only [isKeyStart, IsNameStart, Bool.or_eq_true, isUpper_iff, beq_iff_eq]

theorem isKeyChar_iff (c : Char) : isKeyChar c = true ↔ IsNamePart c := by
  simp only [isKeyChar, IsNamePart, Bool.or_eq_true, isKeyStart_iff, isDigit_iff]

theorem isNameChar_iff (c : Char) : isNameChar c = true ↔ IsNamePart c ∨ IsNameMore c := by
  simp only [isNameChar, Char.isAlphanum, isAlpha_iff, isUpper_iff, isLower_iff, isDigit_iff,
    IsNamePart, IsNameStart, IsNameMore, Bool.or_eq_true, beq_iff_eq]
  constructor
  · rintro (((((upper | lower) | digit)) | rfl) | rfl)
    · exact Or.inl (Or.inl (Or.inl upper))
    · exact Or.inr (Or.inl lower)
    · exact Or.inl (Or.inr digit)
    · exact Or.inl (Or.inl (Or.inr rfl))
    · exact Or.inr (Or.inr rfl)
  · rintro (((upper | rfl) | digit) | (lower | rfl))
    · exact Or.inl (Or.inl (Or.inl (Or.inl upper)))
    · exact Or.inl (Or.inr rfl)
    · exact Or.inl (Or.inl (Or.inr digit))
    · exact Or.inl (Or.inl (Or.inl (Or.inr lower)))
    · exact Or.inr rfl

theorem takeKey?_eq (cs : List Char) :
    takeKey? cs =
      if cs.head?.any isKeyStart then some (cs.takeWhile isKeyChar, cs.dropWhile isKeyChar)
      else none := by
  cases cs <;> rfl

/-- A run of name parts that stops is the longest one. -/
theorem longest_run {run after : List Char} (parts : ∀ c ∈ run, IsNamePart c)
    (stop : ∀ c, after.head? = some c → ¬IsNamePart c) :
    (run ++ after).takeWhile isKeyChar = run ∧ (run ++ after).dropWhile isKeyChar = after := by
  have inside : ∀ c ∈ run, isKeyChar c = true := fun c mem => (isKeyChar_iff c).2 (parts c mem)
  rw [List.takeWhile_append_of_pos inside, List.dropWhile_append_of_pos inside]
  cases after with
  | nil => simp
  | cons c rest =>
      have other : ¬isKeyChar c = true := fun part => stop c rfl ((isKeyChar_iff c).1 part)
      simp [other]

/-- A key at the head of a text is its longest run of name parts. -/
theorem takeKey?_eq_some_iff (cs key rest : List Char) :
    takeKey? cs = some (key, rest) ↔
      cs = key ++ rest ∧ IsName key ∧ ∀ c, rest.head? = some c → ¬IsNamePart c := by
  rw [takeKey?_eq]
  constructor
  · intro taken
    split at taken
    next begins =>
      obtain ⟨rfl, rfl⟩ := by simpa using taken
      refine ⟨List.takeWhile_append_dropWhile.symm, ⟨?_, ?_⟩, ?_⟩
      · cases cs with
        | nil => contradiction
        | cons first cs =>
            have start : isKeyStart first = true := begins
            have part : isKeyChar first = true := by simp [isKeyChar, start]
            exact ⟨first, by simp [part], (isKeyStart_iff first).1 start⟩
      · intro c mem
        exact (isKeyChar_iff c).1 (List.mem_takeWhile_imp mem)
      · intro c next
        have stop := List.head?_dropWhile_not isKeyChar cs
        rw [next] at stop
        rw [← isKeyChar_iff]
        simpa using stop
    next => contradiction
  · rintro ⟨rfl, ⟨⟨first, begins, start⟩, continues⟩, stop⟩
    have nonempty : key ≠ [] := by
      rintro rfl
      contradiction
    rcases longest_run continues stop with ⟨take_eq, drop_eq⟩
    rw [List.head?_append_of_ne_nil _ nonempty, begins, take_eq, drop_eq]
    simp [(isKeyStart_iff first).2 start]

theorem isName_iff_cons (key : List Char) :
    IsName key ↔ ∃ first rest, key = first :: rest ∧ IsNameStart first ∧
      ∀ c ∈ rest, IsNamePart c := by
  constructor
  · rintro ⟨⟨first, begins, start⟩, continues⟩
    cases key with
    | nil => contradiction
    | cons c rest =>
        obtain rfl : c = first := by simpa using begins
        exact ⟨c, rest, rfl, start, fun d mem => continues d (List.mem_cons_of_mem c mem)⟩
  · rintro ⟨first, rest, rfl, start, continues⟩
    refine ⟨⟨first, rfl, start⟩, fun c mem => ?_⟩
    rcases List.mem_cons.1 mem with rfl | mem
    · exact Or.inl start
    · exact continues c mem

theorem IsName.not_mem {key : List Char} (name : IsName key) {c : Char}
    (other : isKeyChar c = false) : c ∉ key := by
  intro mem
  have part := (isKeyChar_iff c).2 (name.continues c mem)
  simp [other] at part

/-! ## Openings and closings -/

/-- Neither of two openings begins with the other, so that no text begins with both. -/
def Apart (first second : String) : Prop :=
  ¬first.toList <+: second.toList ∧ ¬second.toList <+: first.toList

instance (first second : String) : Decidable (Apart first second) :=
  inferInstanceAs (Decidable (_ ∧ _))

theorem Apart.symm {first second : String} (apart : Apart first second) : Apart second first :=
  And.symm apart

theorem Apart.not_begins {first second : String} (apart : Apart first second)
    (body : List Char) : ¬first.toList <+: second.toList ++ body := by
  intro starts
  have second_starts := List.prefix_append second.toList body
  rcases List.prefix_or_prefix_of_prefix starts second_starts with shorter | longer
  · exact apart.1 shorter
  · exact apart.2 longer

/-- What is left of a text stands behind one of the openings. -/
theorem exists_opening {openings : List String} {cs rest : List Char}
    (opened : afterOpening? openings cs = some rest) :
    ∃ opening ∈ openings, cs = opening.toList ++ rest := by
  rcases List.exists_of_findSome?_eq_some opened with ⟨opening, mem, found⟩
  split at found
  next here =>
    rcases List.isPrefixOf_iff_prefix.1 here with ⟨after, rfl⟩
    rw [List.drop_left, Option.some.injEq] at found
    exact ⟨opening, mem, by rw [found]⟩
  next => contradiction

/-- Behind each of several openings that are apart stands what is left of the text. -/
theorem afterOpening?_append {openings : List String} (apart : openings.Pairwise Apart)
    {opening : String} (mem : opening ∈ openings) (rest : List Char) :
    afterOpening? openings (opening.toList ++ rest) = some rest := by
  induction openings with
  | nil => contradiction
  | cons first others ih =>
      rcases List.pairwise_cons.1 apart with ⟨first_apart, others_apart⟩
      rw [afterOpening?, List.findSome?_cons]
      rcases List.mem_cons.1 mem with rfl | later
      · rw [if_pos (List.isPrefixOf_iff_prefix.2 (List.prefix_append _ _)), List.drop_left]
      · have absent := (first_apart opening later).not_begins rest
        rw [if_neg (mt List.isPrefixOf_iff_prefix.1 absent)]
        exact ih others_apart later

/-- No opening stands where another one, apart from all of them, stands. -/
theorem afterOpening?_of_apart {openings : List String} {opening : String}
    (apart : ∀ other ∈ openings, Apart other opening) (body : List Char) :
    afterOpening? openings (opening.toList ++ body) = none := by
  rw [Option.eq_none_iff_forall_ne_some]
  intro rest opened
  rcases exists_opening opened with ⟨other, mem, text_eq⟩
  apply (apart other mem).not_begins body
  rw [text_eq]
  exact List.prefix_append _ _

/-- Where an opening stands, none of those that are apart from it does. -/
theorem afterOpening?_of_opened {openings others : List String}
    (apart : ∀ first ∈ openings, ∀ second ∈ others, Apart first second) {cs body : List Char}
    (opened : afterOpening? openings cs = some body) : afterOpening? others cs = none := by
  rcases exists_opening opened with ⟨first, first_mem, rfl⟩
  apply afterOpening?_of_apart
  intro second second_mem
  exact (apart first first_mem second second_mem).symm

/-- Behind one opening stands what is left of the text. -/
theorem afterOpening?_singleton_eq_some_iff (opening : String) (cs rest : List Char) :
    afterOpening? [opening] cs = some rest ↔ cs = opening.toList ++ rest := by
  constructor
  · intro opened
    rcases exists_opening opened with ⟨other, mem, text_eq⟩
    rwa [List.mem_singleton.1 mem] at text_eq
  · rintro rfl
    exact afterOpening?_append (List.pairwise_singleton _ _) List.mem_cons_self rest

/-- A text is cut in one way only at the first occurrence of a character. -/
theorem append_cons_inj_of_not_mem {closer : Char} {before before' after after' : List Char}
    (absent : closer ∉ before) (absent' : closer ∉ before')
    (eq : before ++ closer :: after = before' ++ closer :: after') :
    before = before' ∧ after = after' := by
  induction before generalizing before' with
  | nil =>
      cases before' with
      | nil => exact ⟨rfl, (List.cons.inj eq).2⟩
      | cons c before' => exact absurd (List.cons.inj eq).1 fun here => absent' (by simp [here])
  | cons c before ih =>
      cases before' with
      | nil => exact absurd (List.cons.inj eq).1.symm fun here => absent (by simp [here])
      | cons d before' =>
          rcases List.cons.inj eq with ⟨rfl, tail_eq⟩
          obtain ⟨rfl, rfl⟩ := ih (List.not_mem_of_not_mem_cons absent)
            (List.not_mem_of_not_mem_cons absent') tail_eq
          exact ⟨rfl, rfl⟩

/-- What holds no closing character begins a text only if it begins the part before the
first one. -/
theorem prefix_append_cons_iff {closer : Char} {segment : List Char}
    (absent : closer ∉ segment) (inner rest : List Char) :
    segment <+: inner ++ closer :: rest ↔ segment <+: inner := by
  constructor
  · intro starts
    rcases List.prefix_or_prefix_of_prefix starts (List.prefix_append inner _) with
      shorter | ⟨more, rfl⟩
    · exact shorter
    · rw [List.prefix_append_right_inj] at starts
      cases more with
      | nil => simp
      | cons c more =>
          obtain rfl : c = closer := (List.cons_prefix_cons.1 starts).1
          exact absurd (by simp) absent
  · intro starts
    exact starts.trans (List.prefix_append _ _)

theorem upTo?_append_cons {closer : Char} {before : List Char} (absent : closer ∉ before)
    (after : List Char) : upTo? closer (before ++ closer :: after) = some (before ++ [closer]) := by
  rw [upTo?, if_pos (by simp), Text.takeWhile_ne_append_cons absent]

/-- A text is cut behind the first occurrence of the closing character. -/
theorem upTo?_eq_some_iff (closer : Char) (cs expression : List Char) :
    upTo? closer cs = some expression ↔
      ∃ before after, cs = before ++ closer :: after ∧ closer ∉ before ∧
        expression = before ++ [closer] := by
  constructor
  · intro up
    have mem : closer ∈ cs := by
      by_contra absent
      simp [upTo?, absent] at up
    rcases List.eq_append_cons_of_mem mem with ⟨before, after, rfl, first⟩
    rw [upTo?_append_cons first, Option.some.injEq] at up
    exact ⟨before, after, rfl, first, up.symm⟩
  · rintro ⟨before, after, rfl, first, rfl⟩
    exact upTo?_append_cons first after

theorem upTo?_eq_none_iff (closer : Char) (cs : List Char) :
    upTo? closer cs = none ↔ closer ∉ cs := by
  simp [upTo?]

section Closed

variable {closer : Char} {opening : List Char} (outside : closer ∉ opening)

include outside in
/-- An expression runs from an opening up to the first closing character behind it. -/
theorem upTo?_opening {inner : List Char} (first : closer ∉ inner) (rest : List Char) :
    upTo? closer (opening ++ (inner ++ closer :: rest)) =
      some (opening ++ (inner ++ [closer])) := by
  have absent : closer ∉ opening ++ inner := by
    rw [List.mem_append, not_or]
    exact ⟨outside, first⟩
  rw [← List.append_assoc, upTo?_append_cons absent, List.append_assoc]

include outside in
theorem mem_of_upTo?_opening {body expression : List Char}
    (up : upTo? closer (opening ++ body) = some expression) : closer ∈ body := by
  by_contra absent
  have unclosed : upTo? closer (opening ++ body) = none := by
    rw [upTo?_eq_none_iff, List.mem_append, not_or]
    exact ⟨outside, absent⟩
  rw [unclosed] at up
  contradiction

end Closed

/-! ## Places of a key -/

/-- Either of the characters that quote a key. -/
def IsQuote (c : Char) : Prop := c = '\'' ∨ c = '"'

/-- A quoted key is a name between two equal quotes. -/
theorem takeQuotedKey?_eq_some_iff (cs key rest : List Char) :
    takeQuotedKey? cs = some (key, rest) ↔
      ∃ quote, IsQuote quote ∧ cs = quote :: (key ++ quote :: rest) ∧ IsName key := by
  constructor
  · intro taken
    unfold takeQuotedKey? at taken
    split at taken
    next quote body =>
      split at taken
      next quoted =>
        split at taken
        next inner closing after key_taken =>
          split at taken
          next same =>
            obtain ⟨rfl, rfl⟩ := by simpa using taken
            subst same
            rcases (takeKey?_eq_some_iff _ _ _).1 key_taken with ⟨rfl, name, -⟩
            exact ⟨closing, by simpa [IsQuote] using quoted, rfl, name⟩
          next => contradiction
        next => contradiction
      next => contradiction
    next => contradiction
  · rintro ⟨quote, quoted, rfl, name⟩
    have key_taken : takeKey? (key ++ quote :: rest) = some (key, quote :: rest) := by
      refine (takeKey?_eq_some_iff _ _ _).2 ⟨rfl, name, fun c first => ?_⟩
      obtain rfl : quote = c := by simpa using first
      rw [← isKeyChar_iff]
      rcases quoted with rfl | rfl <;> decide
    have here : (quote == '\'' || quote == '"') = true := by simpa [IsQuote] using quoted
    simp [takeQuotedKey?, key_taken, here]

/-- Behind an opening bracket, a key is read from its quotes and a closing bracket. -/
theorem read?_subscript_eq_some_iff (cs key rest : List Char) :
    KeyPlace.read? .subscript cs = some (key, rest) ↔
      ∃ quote, IsQuote quote ∧ cs = quote :: (key ++ quote :: ']' :: rest) ∧ IsName key := by
  rw [← takeQuotedKey?_eq_some_iff, KeyPlace.read?]
  constructor
  · intro taken
    split at taken
    next inner after quoted =>
      obtain ⟨rfl, rfl⟩ := by simpa using taken
      exact quoted
    next => contradiction
  · intro quoted
    simp only [quoted]

/-- In an argument, a key is read from its quotes, behind blanks only. -/
theorem read?_argument_eq_some_iff (cs key rest : List Char) :
    KeyPlace.read? .argument cs = some (key, rest) ↔
      ∃ blanks quote, (∀ c ∈ blanks, Text.isBlank c = true) ∧ IsQuote quote ∧
        cs = blanks ++ quote :: (key ++ quote :: rest) ∧ IsName key := by
  rw [KeyPlace.read?, takeQuotedKey?_eq_some_iff]
  constructor
  · rintro ⟨quote, quoted, text_eq, name⟩
    refine ⟨cs.takeWhile Text.isBlank, quote, ?_, quoted, ?_, name⟩
    · intro c mem
      exact List.mem_takeWhile_imp mem
    · rw [← text_eq]
      exact List.takeWhile_append_dropWhile.symm
  · rintro ⟨blanks, quote, blank, quoted, rfl, name⟩
    refine ⟨quote, quoted, Text.trimLeft_append_of_blank blank ?_, name⟩
    intro c first
    obtain rfl : quote = c := by simpa using first
    rcases quoted with rfl | rfl <;> decide

/-- A bare key is read from a name that does not run on. -/
theorem read?_bare_eq_some_iff (cs key rest : List Char) :
    KeyPlace.read? .bare cs = some (key, rest) ↔
      cs = key ++ rest ∧ IsName key ∧
        ∀ c, rest.head? = some c → ¬IsNamePart c ∧ ¬IsNameMore c := by
  have stop_iff : (∀ c, rest.head? = some c → ¬IsNamePart c ∧ ¬IsNameMore c) ↔
      (∀ c, rest.head? = some c → ¬IsNamePart c) ∧ rest.head?.any isNameChar = false := by
    cases rest with
    | nil => simp
    | cons c rest => simp [← Bool.not_eq_true, isNameChar_iff]
  rw [stop_iff, ← and_assoc, ← and_assoc, and_assoc (a := cs = key ++ rest),
    ← takeKey?_eq_some_iff, KeyPlace.read?]
  constructor
  · intro taken
    split at taken
    next inner after key_taken =>
      split at taken
      next c after =>
        split at taken
        next => contradiction
        next other =>
          obtain ⟨rfl, rfl⟩ := by simpa using taken
          exact ⟨key_taken, by simpa using other⟩
      next =>
        obtain ⟨rfl, rfl⟩ := by simpa using taken
        exact ⟨key_taken, rfl⟩
    next => contradiction
  · rintro ⟨key_taken, other⟩
    rw [key_taken]
    cases rest with
    | nil => rfl
    | cons c rest => simpa using other

/-! ## Fallbacks -/

/-- A symbol follows a text if it stands there behind blanks only. -/
theorem marksFollow_symbol_iff (symbol : String) (first : Char)
    (begins : symbol.toList.head? = some first) (solid : Text.isBlank first = false)
    (cs : List Char) :
    marksFollow [.symbol symbol] cs = true ↔
      ∃ blanks rest, cs = blanks ++ rest ∧ (∀ c ∈ blanks, Text.isBlank c = true) ∧
        symbol.toList <+: rest := by
  simp only [marksFollow, Bool.and_true, List.isPrefixOf_iff_prefix]
  constructor
  · intro starts
    refine ⟨cs.takeWhile Text.isBlank, Text.trimLeft cs,
      List.takeWhile_append_dropWhile.symm, fun c mem => List.mem_takeWhile_imp mem, starts⟩
  · rintro ⟨blanks, rest, rfl, blank, after, rfl⟩
    have nonempty : symbol.toList ≠ [] := by
      intro empty
      simp [empty] at begins
    have head_eq : (symbol.toList ++ after).head? = some first := by
      rw [List.head?_append_of_ne_nil _ nonempty, begins]
    rw [Text.trimLeft_append_of_blank blank]
    · exact List.prefix_append _ _
    · intro c here
      rw [head_eq, Option.some.injEq] at here
      exact here ▸ solid

/-! ## Matches -/

/-- What a static form finds is its opening, the key's text and the fallback behind it. -/
theorem match?_eq_some_iff (form : StaticForm) (cs : List Char) (found : StaticMatch) :
    StaticForm.match? form cs = some found ↔
      ∃ body rest, afterOpening? form.openings cs = some body ∧
        KeyPlace.read? form.place body = some (found.key, rest) ∧
        found.raw = cs.take (cs.length - rest.length) ∧
        found.isOptional = form.fallbacks.any fun marks => marksFollow marks rest := by
  simp only [StaticForm.match?, bind, Option.bind_eq_some_iff]
  constructor
  · rintro ⟨body, opened, ⟨key, rest⟩, read, result⟩
    obtain rfl := Option.some.inj result
    exact ⟨body, rest, opened, read, rfl, rfl⟩
  · rintro ⟨body, rest, opened, read, raw_eq, optional_eq⟩
    refine ⟨body, opened, (found.key, rest), read, ?_⟩
    simp only [← raw_eq, ← optional_eq]

theorem match?_of_read (form : StaticForm) {opening consumed key rest : List Char}
    (opened : afterOpening? form.openings (opening ++ (consumed ++ rest)) = some (consumed ++ rest))
    (read : KeyPlace.read? form.place (consumed ++ rest) = some (key, rest)) :
    StaticForm.match? form (opening ++ (consumed ++ rest)) =
      some
        { key
          raw := opening ++ consumed
          isOptional := form.fallbacks.any fun marks => marksFollow marks rest } := by
  refine (match?_eq_some_iff form _ _).2 ⟨_, rest, opened, read, ?_, rfl⟩
  rw [← List.append_assoc, List.length_append, Nat.add_sub_cancel, List.take_left]

theorem match?_of_read_none (form : StaticForm) {cs body : List Char}
    (opened : afterOpening? form.openings cs = some body)
    (unread : KeyPlace.read? form.place body = none) : StaticForm.match? form cs = none := by
  rw [Option.eq_none_iff_forall_ne_some]
  intro found recognised
  obtain ⟨body', rest, opened', read, -⟩ := (match?_eq_some_iff form _ _).1 recognised
  obtain rfl := Option.some.inj (opened.symm.trans opened')
  rw [unread] at read
  contradiction

theorem match?_of_unopened (form : StaticForm) {cs : List Char}
    (unopened : afterOpening? form.openings cs = none) : StaticForm.match? form cs = none := by
  rw [Option.eq_none_iff_forall_ne_some]
  intro found recognised
  obtain ⟨body, rest, opened, -⟩ := (match?_eq_some_iff form _ _).1 recognised
  exact nomatch unopened.symm.trans opened

/-- What a computed form finds runs up to its closing character and holds no literal key. -/
theorem computed_match?_eq_some_iff (form : ComputedForm) (cs expression : List Char) :
    ComputedForm.match? form cs = some expression ↔
      (∃ body, afterOpening? form.openings cs = some body) ∧
        upTo? form.closer cs = some expression ∧
        ComputedForm.isLiteral form expression = false := by
  rw [ComputedForm.match?]
  constructor
  · intro recognised
    split at recognised
    next => contradiction
    next body opened =>
      split at recognised
      next up =>
        split at recognised
        next => contradiction
        next other =>
          obtain rfl := Option.some.inj recognised
          exact ⟨⟨body, opened⟩, up, by simpa using other⟩
      next => contradiction
  · rintro ⟨⟨body, opened⟩, up, other⟩
    rw [opened, up]
    simp [other]

/-- Where an expression can only be literal, no computed form is found. -/
theorem computed_match?_of_literal {form : ComputedForm} {cs : List Char}
    (literal : ∀ expression, upTo? form.closer cs = some expression →
      ComputedForm.isLiteral form expression = true) : ComputedForm.match? form cs = none := by
  rw [Option.eq_none_iff_forall_ne_some]
  intro expression recognised
  obtain ⟨-, up, other⟩ := (computed_match?_eq_some_iff form _ _).1 recognised
  rw [literal expression up] at other
  contradiction

theorem computed_match?_of_unopened {form : ComputedForm} {cs : List Char}
    (unopened : afterOpening? form.openings cs = none) : ComputedForm.match? form cs = none := by
  rw [ComputedForm.match?, unopened]

end EnvConcord.Access

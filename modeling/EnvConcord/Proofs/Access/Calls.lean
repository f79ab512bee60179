import EnvConcord.Proofs.Access.Forms
import EnvConcord.Proofs.Access.Occurrences

/-!
# Calls that read a variable, position by position

What a Python scan records at a call of `os.getenv` or `os.environ.get` is settled by the
text behind the opening parenthesis.  A quoted key that the argument begins with is taken
for the whole argument, whatever follows its closing quote; any other argument is a
computed access if a closing parenthesis follows.
-/

namespace EnvConcord.Access

/-! ## The grammar of calls -/

/-- What the calls that read a variable begin with. -/
def callOpenings : List String := ["os.getenv(", "os.environ.get("]

/-- A call at an offset of a line. -/
structure CallAt (cs : List Char) (i : Nat) (opening : String) (body : List Char) : Prop where
  mem_openings : opening ∈ callOpenings
  drop_eq : cs.drop i = opening.toList ++ body

theorem close_not_mem_opening {opening : String} (mem : opening ∈ callOpenings) :
    ')' ∉ opening.toList := by
  have absent : ∀ opening ∈ callOpenings, ')' ∉ opening.toList := by decide
  exact absent opening mem

theorem CallAt.lt_length {cs body : List Char} {i : Nat} {opening : String}
    (call : CallAt cs i opening body) : i < cs.length := by
  have solid : ∀ opening ∈ callOpenings, opening.toList ≠ [] := by decide
  apply lt_length_of_drop_ne_nil
  rw [call.drop_eq]
  exact List.append_ne_nil_of_left_ne_nil (solid opening call.mem_openings) body

/-- A key between equal quotes, behind blanks only. -/
def IsQuotedKey (argument key : List Char) : Prop :=
  ∃ blanks quote, (∀ c ∈ blanks, Text.isBlank c = true) ∧ IsQuote quote ∧
    argument = blanks ++ quote :: (key ++ [quote]) ∧ IsName key

/-- An argument ends: behind blanks comes a comma, a closing parenthesis, a comment or the
end of the line. -/
def EndsArgument (after : List Char) : Prop :=
  ∃ blanks rest, after = blanks ++ rest ∧ (∀ c ∈ blanks, Text.isBlank c = true) ∧
    ∀ c, rest.head? = some c → c = ',' ∨ c = ')' ∨ c = '#'

/-- A quoted key is all of the first argument. -/
def IsWholeArgument (body key : List Char) : Prop :=
  ∃ argument after, body = argument ++ after ∧ IsQuotedKey argument key ∧ EndsArgument after

theorem endsArgument_iff (after : List Char) :
    EndsArgument after ↔
      ∀ c, (Text.trimLeft after).head? = some c → c = ',' ∨ c = ')' ∨ c = '#' := by
  constructor
  · rintro ⟨blanks, rest, rfl, blank, ends⟩
    rw [Text.trimLeft_append_of_blank blank]
    · exact ends
    · intro c first
      rcases ends c first with rfl | rfl | rfl <;> decide
  · intro ends
    refine ⟨after.takeWhile Text.isBlank, Text.trimLeft after,
      List.takeWhile_append_dropWhile.symm, ?_, ends⟩
    intro c mem
    exact List.mem_takeWhile_imp mem

instance (after : List Char) : Decidable (EndsArgument after) :=
  decidable_of_iff
    ((Text.trimLeft after).head?.all fun c => c = ',' ∨ c = ')' ∨ c = '#') (by
      rw [endsArgument_iff]
      cases (Text.trimLeft after).head? <;> simp)

theorem read?_argument_iff (body key after : List Char) :
    KeyPlace.read? .argument body = some (key, after) ↔
      ∃ argument, body = argument ++ after ∧ IsQuotedKey argument key := by
  rw [read?_argument_eq_some_iff]
  constructor
  · rintro ⟨blanks, quote, blank, quoted, rfl, name⟩
    exact ⟨blanks ++ quote :: (key ++ [quote]), by simp, blanks, quote, blank, quoted, rfl, name⟩
  · rintro ⟨argument, rfl, blanks, quote, blank, quoted, rfl, name⟩
    exact ⟨blanks, quote, blank, quoted, by simp, name⟩

/-- A text begins with at most one quoted key. -/
theorem IsQuotedKey.unique {argument argument' key key' after after' : List Char}
    (keyed : IsQuotedKey argument key) (keyed' : IsQuotedKey argument' key')
    (same : argument ++ after = argument' ++ after') : key = key' ∧ after = after' := by
  have read := (read?_argument_iff _ key after).2 ⟨argument, rfl, keyed⟩
  have read' := (read?_argument_iff _ key' after').2 ⟨argument', rfl, keyed'⟩
  rw [same, read'] at read
  obtain ⟨rfl, rfl⟩ := Prod.mk.inj (Option.some.inj read)
  exact ⟨rfl, rfl⟩

theorem IsQuotedKey.not_mem {argument key : List Char} (keyed : IsQuotedKey argument key) :
    ')' ∉ argument := by
  rcases keyed with ⟨blanks, quote, blank, quoted, rfl, name⟩
  have blanks_absent : ')' ∉ blanks := fun mem => absurd (blank _ mem) (by decide)
  have key_absent := name.not_mem (c := ')') (by decide)
  rcases quoted with rfl | rfl <;> simp [blanks_absent, key_absent]

/-! ## The forms of calls -/

/-- The form of calls with a literal key. -/
def callForm : StaticForm where
  kind := .call
  openings := callOpenings
  place := .argument
  fallbacks := [[.symbol ","], [.symbol ")", .word "or"]]

/-- The form of calls with any argument. -/
def argumentForm : ComputedForm where
  openings := callOpenings
  closer := ')'
  place := .argument

section Call

variable {opening : String} (mem : opening ∈ callOpenings)

include mem in
theorem opened_call (body : List Char) :
    afterOpening? callOpenings (opening.toList ++ body) = some body :=
  afterOpening?_append (by decide) mem body

include mem in
theorem occurrencesAt_call_eq (file : String) (line column : Nat) (body : List Char) :
    occurrencesAt .python file line column (opening.toList ++ body) =
      (ComputedForm.match? argumentForm (opening.toList ++ body)).toList.map
          (computedOccurrence file line column) ++
        (StaticForm.match? callForm (opening.toList ++ body)).toList.map
          (staticOccurrence .call file line column) := by
  have subscripts_apart : ∀ opening ∈ callOpenings, Apart "os.environ[" opening := by decide
  have no_subscript : afterOpening? ["os.environ["] (opening.toList ++ body) = none := by
    apply afterOpening?_of_apart
    intro other other_mem
    rw [List.mem_singleton.1 other_mem]
    exact subscripts_apart opening mem
  simp only [occurrencesAt, Dialect.python, List.flatMap_cons, List.flatMap_nil, List.append_nil]
  rw [computed_match?_of_unopened no_subscript, match?_of_unopened _ no_subscript]
  rfl

include mem in
theorem upTo?_call {inner : List Char} (first : ')' ∉ inner) (rest : List Char) :
    upTo? ')' (opening.toList ++ (inner ++ ')' :: rest)) =
      some (opening.toList ++ (inner ++ [')'])) :=
  upTo?_opening (close_not_mem_opening mem) first rest

include mem in
/-- An expression is literal for the computed form exactly if its argument begins with a
quoted key. -/
theorem isLiteral_argumentForm_iff (inner : List Char) :
    ComputedForm.isLiteral argumentForm (opening.toList ++ (inner ++ [')'])) = true ↔
      ∃ argument key, argument <+: inner ∧ IsQuotedKey argument key := by
  have literal_iff :
      ComputedForm.isLiteral argumentForm (opening.toList ++ (inner ++ [')'])) = true ↔
        ∃ key after, KeyPlace.read? .argument (inner ++ [')']) = some (key, after) := by
    simp only [ComputedForm.isLiteral, argumentForm, opened_call mem]
    cases KeyPlace.read? .argument (inner ++ [')']) with
    | none => simp
    | some found => exact iff_of_true rfl ⟨found.1, found.2, rfl⟩
  rw [literal_iff]
  constructor
  · rintro ⟨key, after, read⟩
    rcases (read?_argument_iff _ _ _).1 read with ⟨argument, text_eq, keyed⟩
    have starts : argument <+: inner ++ [')'] := ⟨after, text_eq.symm⟩
    exact ⟨argument, key, (prefix_append_cons_iff keyed.not_mem inner []).1 starts, keyed⟩
  · rintro ⟨argument, key, ⟨after, rfl⟩, keyed⟩
    refine ⟨key, after ++ [')'], (read?_argument_iff _ _ _).2 ⟨argument, ?_, keyed⟩⟩
    rw [List.append_assoc]

include mem in
/-- A call whose argument begins with a quoted key is one static occurrence, whatever
follows the key. -/
theorem occurrencesAt_keyed (file : String) (line column : Nat) {argument key : List Char}
    (keyed : IsQuotedKey argument key) (after : List Char) :
    occurrencesAt .python file line column (opening.toList ++ (argument ++ after)) =
      [staticOccurrence .call file line column
        { key
          raw := opening.toList ++ argument
          isOptional := callForm.fallbacks.any fun marks => marksFollow marks after }] := by
  have no_computed : ComputedForm.match? argumentForm
      (opening.toList ++ (argument ++ after)) = none := by
    apply computed_match?_of_literal
    intro expression up
    have inside := mem_of_upTo?_opening (close_not_mem_opening mem) up
    rcases List.eq_append_cons_of_mem inside with ⟨inner, rest, text_eq, first⟩
    have starts : argument <+: inner ++ ')' :: rest := ⟨after, text_eq⟩
    rw [text_eq] at up
    obtain rfl := Option.some.inj ((upTo?_call mem first rest).symm.trans up)
    apply (isLiteral_argumentForm_iff mem inner).2
    exact ⟨argument, key, (prefix_append_cons_iff keyed.not_mem inner rest).1 starts, keyed⟩
  have read := (read?_argument_iff (argument ++ after) key after).2 ⟨argument, rfl, keyed⟩
  rw [occurrencesAt_call_eq mem, no_computed,
    match?_of_read callForm (opened_call mem _) read]
  rfl

variable {body : List Char}
  (unkeyed : ¬∃ argument key, argument <+: body ∧ IsQuotedKey argument key)

include unkeyed in
theorem read?_argument_of_unkeyed : KeyPlace.read? .argument body = none := by
  rw [Option.eq_none_iff_forall_ne_some]
  rintro ⟨key, after⟩ read
  rcases (read?_argument_iff _ _ _).1 read with ⟨argument, rfl, keyed⟩
  exact unkeyed ⟨argument, key, List.prefix_append _ _, keyed⟩

include mem unkeyed in
/-- Any other call is one computed occurrence if it is closed on its line. -/
theorem occurrencesAt_unkeyed_closed (file : String) (line column : Nat)
    {inner rest : List Char} (body_eq : body = inner ++ ')' :: rest) (first : ')' ∉ inner) :
    occurrencesAt .python file line column (opening.toList ++ body) =
      [computedOccurrence file line column (opening.toList ++ (inner ++ [')']))] := by
  have unread := read?_argument_of_unkeyed unkeyed
  subst body_eq
  have computed : ComputedForm.match? argumentForm
      (opening.toList ++ (inner ++ ')' :: rest)) =
        some (opening.toList ++ (inner ++ [')'])) := by
    refine (computed_match?_eq_some_iff argumentForm _ _).2
      ⟨⟨_, opened_call mem _⟩, upTo?_call mem first rest, ?_⟩
    rw [← Bool.not_eq_true, isLiteral_argumentForm_iff mem]
    rintro ⟨argument, key, starts, keyed⟩
    exact unkeyed ⟨argument, key, starts.trans (List.prefix_append _ _), keyed⟩
  rw [occurrencesAt_call_eq mem, computed,
    match?_of_read_none callForm (opened_call mem _) unread]
  rfl

include mem unkeyed in
/-- Any other call is no occurrence if it is not closed on its line. -/
theorem occurrencesAt_unkeyed_open (file : String) (line column : Nat) (unclosed : ')' ∉ body) :
    occurrencesAt .python file line column (opening.toList ++ body) = [] := by
  have no_computed : ComputedForm.match? argumentForm (opening.toList ++ body) = none := by
    apply computed_match?_of_literal
    intro expression up
    exact absurd (mem_of_upTo?_opening (close_not_mem_opening mem) up) unclosed
  rw [occurrencesAt_call_eq mem, no_computed,
    match?_of_read_none callForm (opened_call mem _) (read?_argument_of_unkeyed unkeyed)]
  rfl

end Call

/-! ## Scans -/

/-- The usage that a call with a literal key is recorded as. -/
def callUsage (file : String) (line column : Nat) (opening : String)
    (argument after : List Char) : Usage where
  file := file
  line := line
  column := column
  kind := .call
  rawText := String.ofList (opening.toList ++ argument)
  isOptional := callForm.fallbacks.any fun marks => marksFollow marks after

/-- The usage that a call with a computed argument is recorded as. -/
def computedUsage (file : String) (line column : Nat) (opening : String)
    (inner : List Char) : Usage where
  file := file
  line := line
  column := column
  kind := .computed
  rawText := String.ofList (opening.toList ++ (inner ++ [')']))
  isOptional := false

/-- What is to be recorded at a call: a static usage exactly for a quoted key that is all
of the first argument, and for any other argument a computed one if the call is closed. -/
structure ReportsCall (found : List (String × Usage)) (file : String) (line column : Nat)
    (opening : String) (body : List Char) : Prop where
  static_iff : ∀ key, (∃ item ∈ usagesAt found line column,
    item.1 = String.ofList key ∧ item.2.kind = .call) ↔ IsWholeArgument body key
  computed : ∀ inner rest, body = inner ++ ')' :: rest → ')' ∉ inner →
    (¬∃ key, IsWholeArgument body key) →
    usagesAt found line column =
      [(computedName file line column, computedUsage file line column opening inner)]

section Scan

variable {file text opening : String} {k i : Nat} {cs body : List Char}
  (at_k : (Text.lines text.toList)[k]? = some cs) (call : CallAt cs i opening body)

include at_k call in
theorem usagesAt_keyed {argument key after : List Char} (body_eq : body = argument ++ after)
    (keyed : IsQuotedKey argument key) :
    usagesAt (recorded (scan .python file text)) (k + 1) (i + 1) =
      [(String.ofList key, callUsage file (k + 1) (i + 1) opening argument after)] := by
  have perm := usagesAt_scan_perm .python file text at_k call.lt_length
  rw [call.drop_eq, body_eq, occurrencesAt_keyed call.mem_openings _ _ _ keyed] at perm
  exact List.perm_singleton.1 perm

section Unkeyed

variable (unkeyed : ¬∃ argument key, argument <+: body ∧ IsQuotedKey argument key)

include at_k call unkeyed in
theorem usagesAt_unkeyed_closed {inner rest : List Char}
    (body_eq : body = inner ++ ')' :: rest) (first : ')' ∉ inner) :
    usagesAt (recorded (scan .python file text)) (k + 1) (i + 1) =
      [(computedName file (k + 1 : Nat) (i + 1 : Nat),
        computedUsage file (k + 1) (i + 1) opening inner)] := by
  have perm := usagesAt_scan_perm .python file text at_k call.lt_length
  rw [call.drop_eq,
    occurrencesAt_unkeyed_closed call.mem_openings unkeyed _ _ _ body_eq first] at perm
  exact List.perm_singleton.1 perm

include at_k call unkeyed in
theorem usagesAt_unkeyed_open (unclosed : ')' ∉ body) :
    usagesAt (recorded (scan .python file text)) (k + 1) (i + 1) = [] := by
  have perm := usagesAt_scan_perm .python file text at_k call.lt_length
  rw [call.drop_eq, occurrencesAt_unkeyed_open call.mem_openings unkeyed _ _ _ unclosed] at perm
  exact List.perm_nil.1 perm

include at_k call unkeyed in
/-- Without a quoted key at its head, an argument gives no static usage. -/
theorem kind_ne_call_of_unkeyed :
    ∀ item ∈ usagesAt (recorded (scan .python file text)) (k + 1) (i + 1),
      item.2.kind ≠ .call := by
  intro item mem
  by_cases closed : ')' ∈ body
  · rcases List.eq_append_cons_of_mem closed with ⟨inner, rest, body_eq, first⟩
    rw [usagesAt_unkeyed_closed at_k call unkeyed body_eq first, List.mem_singleton] at mem
    simp [mem, computedUsage]
  · rw [usagesAt_unkeyed_open at_k call unkeyed closed] at mem
    contradiction

end Unkeyed

include at_k call in
/-- A call is recorded as it should be unless its argument begins with a quoted key and
goes on behind it. -/
theorem reportsCall_iff :
    ReportsCall (recorded (scan .python file text)) file (k + 1) (i + 1) opening body ↔
      ∀ argument key after, body = argument ++ after → IsQuotedKey argument key →
        EndsArgument after := by
  constructor
  · intro reports argument key after body_eq keyed
    have static : usagesAt (recorded (scan .python file text)) (k + 1) (i + 1) = _ :=
      usagesAt_keyed at_k call body_eq keyed
    have whole : IsWholeArgument body key := by
      apply (reports.static_iff key).1
      rw [static]
      exact ⟨_, List.mem_singleton_self _, rfl, rfl⟩
    rcases whole with ⟨argument', after', body_eq', keyed', ends⟩
    rwa [(keyed.unique keyed' (body_eq.symm.trans body_eq')).2]
  · intro ends
    -- An argument that begins with a quoted key is that key, so no other case is left.
    have whole_of_keyed : ∀ {argument key after}, body = argument ++ after →
        IsQuotedKey argument key → IsWholeArgument body key :=
      fun body_eq keyed => ⟨_, _, body_eq, keyed, ends _ _ _ body_eq keyed⟩
    constructor
    · intro key
      constructor
      · rintro ⟨item, mem, name_eq, kind_eq⟩
        by_cases keyed : ∃ argument key, argument <+: body ∧ IsQuotedKey argument key
        · rcases keyed with ⟨argument, key', ⟨after, body_eq⟩, keyed⟩
          rw [usagesAt_keyed at_k call body_eq.symm keyed, List.mem_singleton] at mem
          rw [mem, String.ofList_inj] at name_eq
          exact name_eq ▸ whole_of_keyed body_eq.symm keyed
        · exact absurd kind_eq (kind_ne_call_of_unkeyed at_k call keyed item mem)
      · rintro ⟨argument, after, body_eq, keyed, -⟩
        rw [usagesAt_keyed at_k call body_eq keyed]
        exact ⟨_, List.mem_singleton_self _, rfl, rfl⟩
    · intro inner rest body_eq first not_whole
      apply usagesAt_unkeyed_closed at_k call _ body_eq first
      rintro ⟨argument, key, ⟨after, text_eq⟩, keyed⟩
      exact not_whole ⟨key, whole_of_keyed text_eq.symm keyed⟩

end Scan

/-- What a Python scan records at a call.  An argument that begins with a quoted key gives
one static usage, whatever follows the key; any other argument gives one computed usage if
the call is closed on its line, and none otherwise.  So a call is recorded as it should be
exactly if a quoted key at the head of the argument is all of the first argument. -/
theorem scan_call_exact (file text : String) {k i : Nat} {cs body : List Char} {opening : String}
    (at_k : (Text.lines text.toList)[k]? = some cs) (call : CallAt cs i opening body) :
    (∀ argument key after, body = argument ++ after → IsQuotedKey argument key →
      usagesAt (recorded (scan .python file text)) (k + 1) (i + 1) =
        [(String.ofList key, callUsage file (k + 1) (i + 1) opening argument after)]) ∧
    ((¬∃ argument key, argument <+: body ∧ IsQuotedKey argument key) →
      (∀ inner rest, body = inner ++ ')' :: rest → ')' ∉ inner →
        usagesAt (recorded (scan .python file text)) (k + 1) (i + 1) =
          [(computedName file (k + 1 : Nat) (i + 1 : Nat),
            computedUsage file (k + 1) (i + 1) opening inner)]) ∧
      (')' ∉ body → usagesAt (recorded (scan .python file text)) (k + 1) (i + 1) = [])) ∧
    (ReportsCall (recorded (scan .python file text)) file (k + 1) (i + 1) opening body ↔
      ∀ argument key after, body = argument ++ after → IsQuotedKey argument key →
        EndsArgument after) := by
  refine ⟨?_, ?_, reportsCall_iff at_k call⟩
  · intro argument key after body_eq keyed
    exact usagesAt_keyed at_k call body_eq keyed
  · intro unkeyed
    constructor
    · intro inner rest body_eq first
      exact usagesAt_unkeyed_closed at_k call unkeyed body_eq first
    · intro unclosed
      exact usagesAt_unkeyed_open at_k call unkeyed unclosed

/-- A line with a call whose key is all of the first argument. -/
def portLine : String := "port = os.environ.get( 'PORT' , 80)"

theorem scan_call_exact_portLine :
    (Text.lines portLine.toList)[0]? = some portLine.toList ∧
      CallAt portLine.toList 7 "os.environ.get(" " 'PORT' , 80)".toList ∧
      ReportsCall (recorded (scan .python "app.py" portLine)) "app.py" 1 8 "os.environ.get("
        " 'PORT' , 80)".toList := by
  have at_k : (Text.lines portLine.toList)[0]? = some portLine.toList := by decide
  have call : CallAt portLine.toList 7 "os.environ.get(" " 'PORT' , 80)".toList :=
    ⟨by decide, by decide⟩
  refine ⟨at_k, call, (scan_call_exact "app.py" portLine at_k call).2.2.2 ?_⟩
  intro argument key after body_eq keyed
  have known : KeyPlace.read? .argument " 'PORT' , 80)".toList =
      some ("PORT".toList, " , 80)".toList) := by decide
  have read := (read?_argument_iff _ key after).2 ⟨argument, body_eq, keyed⟩
  obtain ⟨-, rfl⟩ := Prod.mk.inj (Option.some.inj (known.symm.trans read))
  decide

/-- A line with a call whose key is put together from a literal and a variable. -/
def joinedLine : String := "url = os.getenv(\"URL_\" + name)"

/-- The joined key is computed, but the literal that it begins with is recorded. -/
theorem not_reportsCall_joinedLine :
    CallAt joinedLine.toList 6 "os.getenv(" "\"URL_\" + name)".toList ∧
      ¬ReportsCall (recorded (scan .python "app.py" joinedLine)) "app.py" 1 7 "os.getenv("
        "\"URL_\" + name)".toList := by
  have at_k : (Text.lines joinedLine.toList)[0]? = some joinedLine.toList := by decide
  have call : CallAt joinedLine.toList 6 "os.getenv(" "\"URL_\" + name)".toList :=
    ⟨by decide, by decide⟩
  have read : KeyPlace.read? .argument "\"URL_\" + name)".toList =
      some ("URL_".toList, " + name)".toList) := by decide
  refine ⟨call, fun reports => ?_⟩
  rcases (read?_argument_iff _ _ _).1 read with ⟨argument, body_eq, keyed⟩
  have ends := (reportsCall_iff at_k call).1 reports argument _ _ body_eq keyed
  exact absurd ends (by decide)

end EnvConcord.Access

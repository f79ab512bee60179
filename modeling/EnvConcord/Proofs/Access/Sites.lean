import EnvConcord.Proofs.Access.Calls
import EnvConcord.Proofs.Access.Computed
import EnvConcord.Proofs.Access.Javascript

/-!
# Usage sites

A scan tries every form of its dialect at every position of every line.  In the built-in
dialects the forms share out the positions: where a static form reads a literal key, the
computed form that opens there leaves it out, and all other forms open apart.  So every
access is recorded once, under its place and with the text that stands there.
-/

namespace EnvConcord.Access

/-! ## Forms that exclude each other -/

/-- No text begins with an opening of both lists. -/
def OpeningsApart (openings others : List String) : Prop :=
  ∀ first ∈ openings, ∀ second ∈ others, Apart first second

instance (openings others : List String) : Decidable (OpeningsApart openings others) :=
  inferInstanceAs (Decidable (∀ first ∈ openings, ∀ second ∈ others, Apart first second))

/-- The character that stands behind a key, or behind the argument that it begins. -/
def KeyPlace.closer? : KeyPlace → Option Char
  | .bare => none
  | .subscript => some ']'
  | .argument => some ')'

/-- A closing character is the one that an opening waits for. -/
def Closes (closer : Char) (opening : String) : Prop :=
  (opening.toList.getLast? = some '[' ∧ closer = ']') ∨
    (opening.toList.getLast? = some '(' ∧ closer = ')')

instance (closer : Char) (opening : String) : Decidable (Closes closer opening) :=
  inferInstanceAs (Decidable (_ ∨ _))

/-- A computed form has openings that are apart, and it is closed behind them. -/
structure IsBracketed (form : ComputedForm) : Prop where
  apart : form.openings.Pairwise Apart
  closer_eq : KeyPlace.closer? form.place = some form.closer
  closes : ∀ opening ∈ form.openings, Closes form.closer opening
  outside : ∀ opening ∈ form.openings, form.closer ∉ opening.toList

/-- A computed form opens as a static form does and leaves its literal keys out. -/
def LeavesOut (form : ComputedForm) (static : StaticForm) : Prop :=
  form.openings = static.openings ∧ form.place = static.place

instance (form : ComputedForm) (static : StaticForm) : Decidable (LeavesOut form static) :=
  inferInstanceAs (Decidable (_ ∧ _))

/-- The forms of a dialect exclude each other at every position. -/
structure SeparatesForms (dialect : Dialect) : Prop extends SeparatesComputed dialect where
  bracketed : ∀ form ∈ dialect.computed, IsBracketed form
  statics_apart : dialect.statics.Pairwise fun form other =>
    OpeningsApart form.openings other.openings
  mixed : ∀ static ∈ dialect.statics, ∀ form ∈ dialect.computed,
    OpeningsApart static.openings form.openings ∨ LeavesOut form static

theorem separatesForms_javascript : SeparatesForms .javascript where
  toSeparatesComputed := separatesComputed_javascript
  bracketed form mem := by
    obtain rfl := List.mem_singleton.1 mem
    exact ⟨by decide, by decide, by decide, by decide⟩
  statics_apart := by decide
  mixed := by decide

theorem separatesForms_python : SeparatesForms .python where
  toSeparatesComputed := separatesComputed_python
  bracketed form mem := by
    rcases List.mem_pair.1 mem with rfl | rfl
    · exact ⟨by decide, by decide, by decide, by decide⟩
    · exact ⟨by decide, by decide, by decide, by decide⟩
  statics_apart := by decide
  mixed := by decide

theorem separatesForms_of_builtIn {dialect : Dialect}
    (builtIn : dialect ∈ [Dialect.javascript, Dialect.python]) : SeparatesForms dialect := by
  rcases List.mem_pair.1 builtIn with rfl | rfl
  · exact separatesForms_javascript
  · exact separatesForms_python

/-! ## One access at a place -/

/-- A key that is read at the head of a text is read from the part up to the first closing
character as well, and it is all of that part if it stands in brackets. -/
theorem read?_append_closer {place : KeyPlace} {closer : Char}
    (closer_eq : KeyPlace.closer? place = some closer) {inner after key rest : List Char}
    (first : closer ∉ inner)
    (read : KeyPlace.read? place (inner ++ closer :: after) = some (key, rest)) :
    ∃ left, KeyPlace.read? place (inner ++ [closer]) = some (key, left) ∧
      (place = .subscript → left = []) := by
  cases place with
  | bare => contradiction
  | subscript =>
      obtain rfl := Option.some.inj closer_eq
      have literal := ((read?_subscript_of_first first after key rest).1 read).2
      exact ⟨[], (read?_subscript_of_first first [] key []).2 ⟨rfl, literal⟩, fun _ => rfl⟩
  | argument =>
      obtain rfl := Option.some.inj closer_eq
      rcases (read?_argument_iff _ key rest).1 read with ⟨argument, text_eq, keyed⟩
      have starts : argument <+: inner ++ ')' :: after := ⟨rest, text_eq.symm⟩
      rcases (prefix_append_cons_iff keyed.not_mem inner after).1 starts with ⟨left, rfl⟩
      refine ⟨left ++ [')'], (read?_argument_iff _ key _).2 ⟨argument, ?_, keyed⟩, nofun⟩
      rw [List.append_assoc]

section Excluded

variable {form : ComputedForm} {static : StaticForm} {cs : List Char} {found : StaticMatch}
  (bracketed : IsBracketed form) (recognised : StaticForm.match? static cs = some found)

include bracketed recognised in
/-- Where a static form reads a key, the expression that begins there holds a literal. -/
theorem isLiteral_of_match? (leaves : LeavesOut form static) {expression : List Char}
    (up : upTo? form.closer cs = some expression) :
    ComputedForm.isLiteral form expression = true := by
  rcases leaves with ⟨openings_eq, place_eq⟩
  rcases (match?_eq_some_iff static cs found).1 recognised with ⟨body, rest, opened, read, -⟩
  rw [← openings_eq] at opened
  rw [← place_eq] at read
  rcases exists_opening opened with ⟨opening, opening_mem, rfl⟩
  have outside := bracketed.outside opening opening_mem
  rcases List.eq_append_cons_of_mem (mem_of_upTo?_opening outside up) with
    ⟨inner, after, rfl, first⟩
  obtain rfl := Option.some.inj ((upTo?_opening outside first after).symm.trans up)
  -- No key holds the closing character, so the key is still there where the text is cut.
  rcases read?_append_closer bracketed.closer_eq first read with ⟨left, read_inner, left_eq⟩
  rw [ComputedForm.isLiteral, afterOpening?_append bracketed.apart opening_mem]
  simp only [read_inner]
  by_cases subscript : form.place = .subscript
  · simp [left_eq subscript]
  · simp [subscript]

include bracketed recognised in
/-- Where a static form is recognised, a computed form that opens apart from it or leaves
it out is not. -/
theorem computed_match?_of_match?
    (mixed : OpeningsApart static.openings form.openings ∨ LeavesOut form static) :
    ComputedForm.match? form cs = none := by
  rcases mixed with apart | leaves
  · obtain ⟨body, rest, opened, -⟩ := (match?_eq_some_iff static cs found).1 recognised
    exact computed_match?_of_unopened (afterOpening?_of_opened apart opened)
  · exact computed_match?_of_literal fun _ up =>
      isLiteral_of_match? bracketed recognised leaves up

end Excluded

/-- An access of a dialect begins where a part of a line begins. -/
def IsSite (dialect : Dialect) (rest : List Char) : Prop :=
  (∃ form ∈ dialect.computed, (ComputedForm.match? form rest).isSome = true) ∨
    ∃ form ∈ dialect.statics, (StaticForm.match? form rest).isSome = true

instance (dialect : Dialect) (rest : List Char) : Decidable (IsSite dialect rest) :=
  inferInstanceAs (Decidable (_ ∨ _))

section Place

variable {dialect : Dialect} (separates : SeparatesForms dialect) (file : String)
  (line column : Nat) (rest : List Char)

theorem occurrencesAt_ne_nil_iff :
    occurrencesAt dialect file line column rest ≠ [] ↔ IsSite dialect rest := by
  simp only [occurrencesAt, IsSite, ne_eq, List.append_eq_nil_iff, List.flatMap_eq_nil_iff,
    List.map_eq_nil_iff, Option.toList_eq_nil_iff, Option.isSome_iff_ne_none, not_and_or,
    not_forall, exists_prop]

include separates in
/-- Where a static form is recognised, no computed form is. -/
theorem computed_eq_nil_of_match? {static : StaticForm} (static_mem : static ∈ dialect.statics)
    {found : StaticMatch} (recognised : StaticForm.match? static rest = some found) :
    (dialect.computed.flatMap fun form => (ComputedForm.match? form rest).toList) = [] := by
  rw [List.flatMap_eq_nil_iff]
  intro form form_mem
  rw [computed_match?_of_match? (separates.bracketed form form_mem) recognised
    (separates.mixed static static_mem form form_mem), Option.toList_none]

include separates in
/-- At a place begins at most one static access. -/
theorem length_statics_le_one :
    (dialect.statics.flatMap fun form =>
      (StaticForm.match? form rest).toList.map
        (staticOccurrence form.kind file line column)).length ≤ 1 := by
  simp only [← Option.toList_map]
  apply length_flatMap_toList_le_one
  refine separates.statics_apart.imp fun {form other} apart found recognised => ?_
  rcases Option.map_eq_some_iff.1 recognised with ⟨content, recognised, -⟩
  obtain ⟨body, after, opened, -⟩ := (match?_eq_some_iff form rest content).1 recognised
  rw [match?_of_unopened other (afterOpening?_of_opened apart opened), Option.map_none]

include separates in
/-- No two accesses begin at one place. -/
theorem length_occurrencesAt_le_one :
    (occurrencesAt dialect file line column rest).length ≤ 1 := by
  rw [occurrencesAt, List.length_append, ← List.map_flatMap, List.length_map]
  by_cases static : ∃ form ∈ dialect.statics, ∃ found, StaticForm.match? form rest = some found
  · rcases static with ⟨form, form_mem, found, recognised⟩
    rw [computed_eq_nil_of_match? separates rest form_mem recognised, List.length_nil,
      Nat.zero_add]
    exact length_statics_le_one separates file line column rest
  · have no_static : (dialect.statics.flatMap fun form =>
        (StaticForm.match? form rest).toList.map
          (staticOccurrence form.kind file line column)) = [] := by
      rw [List.flatMap_eq_nil_iff]
      intro form form_mem
      have unrecognised : StaticForm.match? form rest = none := by
        rw [Option.eq_none_iff_forall_ne_some]
        exact fun found recognised => static ⟨form, form_mem, found, recognised⟩
      rw [unrecognised, Option.toList_none, List.map_nil]
    rw [no_static, List.length_nil, Nat.add_zero]
    exact length_flatMap_match?_le_one separates.computed_apart rest

include separates in
/-- A place holds one occurrence if an access begins there, and none otherwise. -/
theorem length_occurrencesAt :
    (occurrencesAt dialect file line column rest).length =
      if IsSite dialect rest then 1 else 0 := by
  have few := length_occurrencesAt_le_one separates file line column rest
  split
  next site =>
    have some_found := List.length_pos_of_ne_nil
      ((occurrencesAt_ne_nil_iff file line column rest).2 site)
    omega
  next no_site =>
    rw [List.length_eq_zero_iff]
    exact not_not.1 (mt (occurrencesAt_ne_nil_iff file line column rest).1 no_site)

end Place

/-! ## The text of an access -/

/-- A text runs from an opening of a form to the closing character that the opening waits
for, and holds that character at its end only. -/
structure IsExpression (form : ComputedForm) (text : List Char) : Prop where
  begins : ∃ opening ∈ form.openings, opening.toList <+: text ∧ Closes form.closer opening
  ends : ∃ inner, text = inner ++ [form.closer] ∧ form.closer ∉ inner

theorem isExpression_of_match? {form : ComputedForm} (bracketed : IsBracketed form)
    {cs expression : List Char} (recognised : ComputedForm.match? form cs = some expression) :
    IsExpression form expression := by
  obtain ⟨⟨body, opened⟩, up, -⟩ := (computed_match?_eq_some_iff form cs _).1 recognised
  rcases exists_opening opened with ⟨opening, opening_mem, cs_eq⟩
  rcases (upTo?_eq_some_iff _ _ _).1 up with ⟨before, after, rfl, first, rfl⟩
  have starts : opening.toList <+: before ++ form.closer :: after := ⟨body, cs_eq.symm⟩
  have inside := (prefix_append_cons_iff (bracketed.outside opening opening_mem) _ _).1 starts
  exact ⟨⟨opening, opening_mem, inside.trans (List.prefix_append _ _),
    bracketed.closes opening opening_mem⟩, before, rfl, first⟩

section Text

variable {dialect : Dialect} {file : String} {line column : Nat} {rest : List Char}
  {found : Occurrence} (mem : found ∈ occurrencesAt dialect file line column rest)

include mem in
/-- What an occurrence is recorded with is the text at its place. -/
theorem rawText_prefix_of_mem_occurrencesAt : found.usage.rawText.toList <+: rest := by
  rcases (mem_occurrencesAt_iff _ _ _ _ _ _).1 mem with
    ⟨form, -, expression, recognised, rfl⟩ | ⟨form, -, content, recognised, rfl⟩
  · obtain ⟨-, up, -⟩ := (computed_match?_eq_some_iff form rest expression).1 recognised
    rcases (upTo?_eq_some_iff _ _ _).1 up with ⟨before, after, rfl, -, rfl⟩
    rw [computedOccurrence, String.toList_ofList]
    exact ⟨after, by simp⟩
  · obtain ⟨_, _, -, -, raw_eq, -⟩ := (match?_eq_some_iff form rest content).1 recognised
    rw [staticOccurrence, String.toList_ofList, raw_eq]
    exact List.take_prefix _ _

include mem in
theorem isExpression_of_mem_occurrencesAt (separates : SeparatesForms dialect)
    (computed : found.usage.kind = .computed) :
    ∃ form ∈ dialect.computed, IsExpression form found.usage.rawText.toList := by
  rcases (mem_occurrencesAt_iff _ _ _ _ _ _).1 mem with
    ⟨form, form_mem, expression, recognised, rfl⟩ | ⟨form, form_mem, content, -, rfl⟩
  · refine ⟨form, form_mem, ?_⟩
    rw [computedOccurrence, String.toList_ofList]
    exact isExpression_of_match? (separates.bracketed form form_mem) recognised
  · exact absurd computed (separates.static_kinds form form_mem)

end Text

/-! ## Sites of a scan -/

/-- The line and the column of a usage. -/
def site (usage : Usage) : Nat × Nat := (usage.line, usage.column)

/-- The sites of all usages of some keys. -/
def sites (keys : List CodeKey) : List (Nat × Nat) := (keys.flatMap CodeKey.usages).map site

/-- The text that a usage is recorded with stands in its line at its column, where lines
and columns are counted from one. -/
def StandsAt (lines : List (List Char)) (usage : Usage) : Prop :=
  ∃ k before after, usage.line = k + 1 ∧ usage.column = before.length + 1 ∧
    lines[k]? = some (before ++ (usage.rawText.toList ++ after))

/-- Keys account for the accesses of a dialect in some lines: each usage is real, each place
where an access begins has one usage and no other place has any, a computed usage is one
closed expression, and the usages of a key go down the lines. -/
structure ReportsSites (dialect : Dialect) (lines : List (List Char)) (keys : List CodeKey) :
    Prop where
  stands : ∀ key ∈ keys, ∀ usage ∈ key.usages, StandsAt lines usage
  distinct : (sites keys).Nodup
  once : ∀ (k i : Nat) (cs : List Char), lines[k]? = some cs → i < cs.length →
    (sites keys).count (k + 1, i + 1) = if IsSite dialect (cs.drop i) then 1 else 0
  closed : ∀ key ∈ keys, ∀ usage ∈ key.usages, usage.kind = .computed →
    ∃ form ∈ dialect.computed, IsExpression form usage.rawText.toList
  ascending : ∀ key ∈ keys, key.usages.Pairwise fun usage later => usage.line ≤ later.line

/-- The occurrences of a text go down its lines. -/
theorem pairwise_line_inLines (dialect : Dialect) (file : String) (line : Nat)
    (lines : List (List Char)) :
    (inLines dialect file line lines).Pairwise fun found later =>
      found.usage.line ≤ later.usage.line := by
  induction lines generalizing line with
  | nil => exact List.Pairwise.nil
  | cons cs rest ih =>
      rw [inLines, List.pairwise_append]
      refine ⟨?_, ih (line + 1), ?_⟩
      · refine List.pairwise_of_forall_mem_list fun found found_mem later later_mem => ?_
        rw [line_of_mem_inLine found_mem, line_of_mem_inLine later_mem]
      · intro found found_mem later later_mem
        rcases (mem_inLines_iff _ _ _ _ _).1 later_mem with ⟨k, cs', -, later_mem⟩
        rw [line_of_mem_inLine found_mem, line_of_mem_inLine later_mem]
        omega

section Scan

variable {dialect : Dialect} {file text : String}

/-- The sites of a scan are the sites of its occurrences. -/
theorem sites_scan_perm (dialect : Dialect) (file text : String) :
    (sites (scan dialect file text)).Perm
      ((occurrences dialect file text).map fun found => site found.usage) := by
  have all := (recorded_collect_perm (occurrences dialect file text)).map
    fun item => site item.2
  rw [recorded, List.map_flatMap, List.map_map] at all
  simpa [sites, scan, List.map_flatMap, Function.comp_def] using all

theorem count_sites_scan {k i : Nat} {cs : List Char}
    (at_k : (Text.lines text.toList)[k]? = some cs) (below : i < cs.length) :
    (sites (scan dialect file text)).count (k + 1, i + 1) =
      (occurrencesAt dialect file (k + 1) (i + 1) (cs.drop i)).length := by
  rw [(sites_scan_perm dialect file text).count_eq, ← filter_occurrences dialect file text
    at_k below, List.count, List.countP_map, List.countP_eq_length_filter]
  congr 1
  apply List.filter_congr
  intro found _
  rw [Bool.eq_iff_iff]
  simp [site]

theorem exists_occurrence_of_mem_scan {key : CodeKey} (mem : key ∈ scan dialect file text)
    {usage : Usage} (usage_mem : usage ∈ key.usages) :
    ∃ (found : Occurrence) (k i : Nat) (cs : List Char), found.usage = usage ∧
      (Text.lines text.toList)[k]? = some cs ∧ i < cs.length ∧
      found ∈ occurrencesAt dialect file (k + 1) (i + 1) (cs.drop i) := by
  rcases (mem_collect mem).2 usage usage_mem with ⟨found, found_mem, -, usage_eq⟩
  rcases (mem_occurrences_iff dialect file text found).1 found_mem with
    ⟨k, cs, i, at_k, below, here⟩
  exact ⟨found, k, i, cs, usage_eq, at_k, below, here⟩

theorem standsAt_of_mem_scan {key : CodeKey} (mem : key ∈ scan dialect file text)
    {usage : Usage} (usage_mem : usage ∈ key.usages) :
    StandsAt (Text.lines text.toList) usage := by
  rcases exists_occurrence_of_mem_scan mem usage_mem with
    ⟨found, k, i, cs, rfl, at_k, below, here⟩
  rcases place_of_mem_occurrencesAt here with ⟨-, line_eq, column_eq⟩
  rcases rawText_prefix_of_mem_occurrencesAt here with ⟨after, drop_eq⟩
  refine ⟨k, cs.take i, after, line_eq, ?_, ?_⟩
  · rw [column_eq, List.length_take_of_le below.le]
  · rw [drop_eq, List.take_append_drop, at_k]

/-- The usages of a key go down the lines. -/
theorem pairwise_line_of_mem_scan {key : CodeKey} (mem : key ∈ scan dialect file text) :
    key.usages.Pairwise fun usage later => usage.line ≤ later.line := by
  rw [((mem_collect_iff _ key).1 mem).2, namedKey, List.pairwise_map]
  exact (pairwise_line_inLines dialect file 1 _).filter _

variable (separates : SeparatesForms dialect)

include separates in
/-- No two usages of a scan have one site. -/
theorem nodup_sites_scan : (sites (scan dialect file text)).Nodup := by
  rw [List.nodup_iff_count_le_one]
  intro here
  -- A site that is counted at all is a position of a line, and one access begins there.
  by_cases mem : here ∈ sites (scan dialect file text)
  · simp only [sites, List.mem_map, List.mem_flatMap] at mem
    rcases mem with ⟨usage, ⟨key, key_mem, usage_mem⟩, rfl⟩
    rcases exists_occurrence_of_mem_scan key_mem usage_mem with
      ⟨found, k, i, cs, rfl, at_k, below, found_mem⟩
    rcases place_of_mem_occurrencesAt found_mem with ⟨-, line_eq, column_eq⟩
    rw [site, line_eq, column_eq, count_sites_scan at_k below]
    exact length_occurrencesAt_le_one separates file (k + 1) (i + 1) (cs.drop i)
  · rw [List.count_eq_zero_of_not_mem mem]
    exact Nat.zero_le 1

end Scan

/-- In a built-in dialect every usage stands where it is recorded, no two usages stand at
one place, and a place has a usage exactly if an access begins there.  A computed usage holds
its closing character at its end only, and the usages of a key go down the lines. -/
theorem scan_reportsSites {dialect : Dialect}
    (builtIn : dialect ∈ [Dialect.javascript, Dialect.python]) (file text : String) :
    ReportsSites dialect (Text.lines text.toList) (scan dialect file text) := by
  have separates := separatesForms_of_builtIn builtIn
  constructor
  · intro key mem usage usage_mem
    exact standsAt_of_mem_scan mem usage_mem
  · exact nodup_sites_scan separates
  · intro k i cs at_k below
    rw [count_sites_scan at_k below]
    exact length_occurrencesAt separates file (k + 1) (i + 1) (cs.drop i)
  · intro key mem usage usage_mem computed
    rcases exists_occurrence_of_mem_scan mem usage_mem with ⟨found, k, i, cs, rfl, -, -, here⟩
    exact isExpression_of_mem_occurrencesAt here separates computed
  · intro key mem
    exact pairwise_line_of_mem_scan mem

/-- A line with a literal key inside a computed access. -/
def nestedLine : String := "key = os.environ[os.getenv('NAME')]"

theorem scan_reportsSites_nestedLine :
    Dialect.python ∈ [Dialect.javascript, Dialect.python] ∧
      IsSite .python (nestedLine.toList.drop 6) ∧ IsSite .python (nestedLine.toList.drop 17) ∧
      ReportsSites .python (Text.lines nestedLine.toList)
        (scan .python "app.py" nestedLine) := by
  have builtIn : Dialect.python ∈ [Dialect.javascript, Dialect.python] := by decide
  exact ⟨builtIn, by decide, by decide, scan_reportsSites builtIn "app.py" nestedLine⟩

end EnvConcord.Access

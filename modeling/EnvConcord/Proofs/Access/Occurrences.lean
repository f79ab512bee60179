import EnvConcord.Access.Scan
import EnvConcord.Proofs.Collection.Grouping

/-!
# Scans position by position

A scan is settled by what its dialect recognises at the positions of the lines: the
occurrences with a given line and column are those recognised there.  Grouping
occurrences under names loses none of them.
-/

namespace EnvConcord.Access

/-! ## Positions of a line -/

variable {α : Type*}

theorem lt_length_of_drop_ne_nil {cs : List α} {i : Nat} (nonempty : cs.drop i ≠ []) :
    i < cs.length := by
  rw [ne_eq, List.drop_eq_nil_iff] at nonempty
  omega

theorem mem_findings_iff (recognise : List Char → Option α) (column : Nat) (cs : List Char)
    (found : Nat × α) :
    found ∈ findings recognise column cs ↔
      ∃ i, i < cs.length ∧ found.1 = column + i ∧ recognise (cs.drop i) = some found.2 := by
  induction cs generalizing column with
  | nil => simp [findings]
  | cons c rest ih =>
      have split_mem : found ∈ findings recognise column (c :: rest) ↔
          (found.1 = column ∧ recognise (c :: rest) = some found.2) ∨
            found ∈ findings recognise (column + 1) rest := by
        rcases found with ⟨place, content⟩
        rw [findings]
        cases recognise (c :: rest) with
        | none => simp
        | some here => simp [eq_comm]
      rw [split_mem, ih]
      constructor
      · rintro (⟨place_eq, recognised⟩ | ⟨i, below, place_eq, recognised⟩)
        · exact ⟨0, by simp, place_eq, recognised⟩
        · exact ⟨i + 1, by simpa using below, by omega, recognised⟩
      · rintro ⟨i, below, place_eq, recognised⟩
        cases i with
        | zero => exact Or.inl ⟨place_eq, recognised⟩
        | succ i => exact Or.inr ⟨i, by simpa using below, by omega, recognised⟩

theorem column_le_of_mem_findings {recognise : List Char → Option α} {column : Nat}
    {cs : List Char} {found : Nat × α} (mem : found ∈ findings recognise column cs) :
    column ≤ found.1 := by
  rcases (mem_findings_iff recognise column cs found).1 mem with ⟨i, -, place_eq, -⟩
  omega

/-- The findings of one column are what is recognised there. -/
theorem filter_findings (recognise : List Char → Option α) (column i : Nat) {cs : List Char}
    (below : i < cs.length) :
    (findings recognise column cs).filter (fun found => found.1 = column + i) =
      (recognise (cs.drop i)).toList.map fun content => (column + i, content) := by
  induction cs generalizing column i with
  | nil => contradiction
  | cons c rest ih =>
      cases i with
      | zero =>
          have later : (findings recognise (column + 1) rest).filter
              (fun found => found.1 = column + 0) = [] := by
            rw [List.filter_eq_nil_iff]
            intro found mem
            have bound := column_le_of_mem_findings mem
            simp only [decide_eq_true_eq]
            omega
          rw [findings, List.drop_zero]
          cases recognise (c :: rest) with
          | none => simpa using later
          | some here => simpa using later
      | succ i =>
          have later := ih (column + 1) i (by simpa using below)
          rw [show column + 1 + i = column + (i + 1) by omega] at later
          rw [findings, List.drop_succ_cons]
          cases recognise (c :: rest) with
          | none => exact later
          | some here =>
              simp only
              rw [List.filter_cons_of_neg (by simp), later]

/-! ## Occurrences of a dialect -/

/-- A computed access at a place. -/
def computedOccurrence (file : String) (line column : Nat) (expression : List Char) :
    Occurrence where
  name := computedName file line column
  usage := { file, line, column, kind := .computed, rawText := String.ofList expression }

/-- A static access at a place. -/
def staticOccurrence (kind : AccessKind) (file : String) (line column : Nat)
    (found : StaticMatch) : Occurrence where
  name := String.ofList found.key
  usage :=
    { file, line, column, kind, rawText := String.ofList found.raw
      isOptional := found.isOptional }

/-- The occurrences that begin where a part of a line begins. -/
def occurrencesAt (dialect : Dialect) (file : String) (line column : Nat) (rest : List Char) :
    List Occurrence :=
  (dialect.computed.flatMap fun form =>
    (ComputedForm.match? form rest).toList.map (computedOccurrence file line column)) ++
  dialect.statics.flatMap fun form =>
    (StaticForm.match? form rest).toList.map (staticOccurrence form.kind file line column)

/-- An occurrence at a place is what one of the forms recognises there. -/
theorem mem_occurrencesAt_iff (dialect : Dialect) (file : String) (line column : Nat)
    (rest : List Char) (found : Occurrence) :
    found ∈ occurrencesAt dialect file line column rest ↔
      (∃ form ∈ dialect.computed, ∃ expression, ComputedForm.match? form rest = some expression ∧
        computedOccurrence file line column expression = found) ∨
      ∃ form ∈ dialect.statics, ∃ content, StaticForm.match? form rest = some content ∧
        staticOccurrence form.kind file line column content = found := by
  simp only [occurrencesAt, List.mem_append, List.mem_flatMap, List.mem_map, Option.mem_toList]

theorem inLine_eq (dialect : Dialect) (file : String) (line : Nat) (cs : List Char) :
    inLine dialect file line cs =
      (dialect.computed.flatMap fun form =>
        (findings (ComputedForm.match? form) 1 cs).map fun found =>
          computedOccurrence file line found.1 found.2) ++
      dialect.statics.flatMap fun form =>
        (findings (StaticForm.match? form) 1 cs).map fun found =>
          staticOccurrence form.kind file line found.1 found.2 := rfl

theorem mem_inLine_iff (dialect : Dialect) (file : String) (line : Nat) (cs : List Char)
    (found : Occurrence) :
    found ∈ inLine dialect file line cs ↔
      ∃ i, i < cs.length ∧ found ∈ occurrencesAt dialect file line (i + 1) (cs.drop i) := by
  simp only [inLine_eq, mem_occurrencesAt_iff, List.mem_append, List.mem_flatMap, List.mem_map,
    mem_findings_iff]
  constructor
  · rintro (⟨form, form_mem, ⟨place, content⟩, ⟨i, below, rfl, recognised⟩, rfl⟩ |
      ⟨form, form_mem, ⟨place, content⟩, ⟨i, below, rfl, recognised⟩, rfl⟩)
    · refine ⟨i, below, Or.inl ⟨form, form_mem, content, recognised, ?_⟩⟩
      rw [Nat.add_comm]
    · refine ⟨i, below, Or.inr ⟨form, form_mem, content, recognised, ?_⟩⟩
      rw [Nat.add_comm]
  · rintro ⟨i, below, ⟨form, form_mem, content, recognised, rfl⟩ |
      ⟨form, form_mem, content, recognised, rfl⟩⟩
    · exact Or.inl ⟨form, form_mem, (i + 1, content), ⟨i, below, by omega, recognised⟩, rfl⟩
    · exact Or.inr ⟨form, form_mem, (i + 1, content), ⟨i, below, by omega, recognised⟩, rfl⟩

theorem place_of_mem_occurrencesAt {dialect : Dialect} {file : String} {line column : Nat}
    {rest : List Char} {found : Occurrence}
    (mem : found ∈ occurrencesAt dialect file line column rest) :
    found.usage.file = file ∧ found.usage.line = line ∧ found.usage.column = column := by
  rcases (mem_occurrencesAt_iff _ _ _ _ _ _).1 mem with ⟨_, -, _, -, rfl⟩ | ⟨_, -, _, -, rfl⟩ <;>
    exact ⟨rfl, rfl, rfl⟩

theorem filter_map_findings (recognise : List Char → Option α)
    (occurrence : Nat → α → Occurrence)
    (column_eq : ∀ column content, (occurrence column content).usage.column = column)
    (i : Nat) {cs : List Char} (below : i < cs.length) :
    ((findings recognise 1 cs).map fun found => occurrence found.1 found.2).filter
        (fun found => found.usage.column = i + 1) =
      (recognise (cs.drop i)).toList.map (occurrence (i + 1)) := by
  have at_place := filter_findings recognise 1 i below
  rw [Nat.add_comm 1 i] at at_place
  rw [List.filter_map]
  simp only [Function.comp_def, column_eq]
  rw [at_place, List.map_map]
  rfl

/-- The occurrences of one column of a line are those that begin there. -/
theorem filter_inLine (dialect : Dialect) (file : String) (line i : Nat) {cs : List Char}
    (below : i < cs.length) :
    (inLine dialect file line cs).filter (fun found => found.usage.column = i + 1) =
      occurrencesAt dialect file line (i + 1) (cs.drop i) := by
  rw [inLine_eq, occurrencesAt, List.filter_append, List.filter_flatMap, List.filter_flatMap]
  congr 1
  · congr 1
    funext form
    exact filter_map_findings _ (computedOccurrence file line) (fun _ _ => rfl) i below
  · congr 1
    funext form
    exact filter_map_findings _ (staticOccurrence form.kind file line) (fun _ _ => rfl) i below

/-! ## Occurrences of a text -/

theorem mem_inLines_iff (dialect : Dialect) (file : String) (line : Nat)
    (lines : List (List Char)) (found : Occurrence) :
    found ∈ inLines dialect file line lines ↔
      ∃ (k : Nat) (cs : List Char), lines[k]? = some cs ∧
        found ∈ inLine dialect file (line + k) cs := by
  induction lines generalizing line with
  | nil => simp [inLines]
  | cons first rest ih =>
      rw [inLines, List.mem_append, ih]
      constructor
      · rintro (here | ⟨k, cs, at_k, mem⟩)
        · exact ⟨0, first, rfl, here⟩
        · exact ⟨k + 1, cs, at_k, by rwa [Nat.add_right_comm] at mem⟩
      · rintro ⟨k, cs, at_k, mem⟩
        cases k with
        | zero =>
            rw [List.getElem?_cons_zero, Option.some.injEq] at at_k
            subst at_k
            exact Or.inl mem
        | succ k =>
            right
            refine ⟨k, cs, at_k, ?_⟩
            rwa [Nat.add_right_comm]

theorem line_of_mem_inLine {dialect : Dialect} {file : String} {line : Nat} {cs : List Char}
    {found : Occurrence} (mem : found ∈ inLine dialect file line cs) :
    found.usage.line = line := by
  rcases (mem_inLine_iff dialect file line cs found).1 mem with ⟨i, -, mem⟩
  exact (place_of_mem_occurrencesAt mem).2.1

/-- The occurrences of one line number are those of that line. -/
theorem filter_inLines (dialect : Dialect) (file : String) (line k : Nat)
    {lines : List (List Char)} {cs : List Char} (at_k : lines[k]? = some cs) :
    (inLines dialect file line lines).filter (fun found => found.usage.line = line + k) =
      inLine dialect file (line + k) cs := by
  induction lines generalizing line k with
  | nil => simp at at_k
  | cons first rest ih =>
      rw [inLines, List.filter_append]
      cases k with
      | zero =>
          rw [List.getElem?_cons_zero, Option.some.injEq] at at_k
          subst at_k
          have here : (inLine dialect file line first).filter
              (fun found => found.usage.line = line + 0) = inLine dialect file line first := by
            rw [List.filter_eq_self]
            intro found mem
            simpa using line_of_mem_inLine mem
          have later : (inLines dialect file (line + 1) rest).filter
              (fun found => found.usage.line = line + 0) = [] := by
            rw [List.filter_eq_nil_iff]
            intro found mem
            rcases (mem_inLines_iff _ _ _ _ _).1 mem with ⟨k, cs, -, mem⟩
            have place := line_of_mem_inLine mem
            simp only [decide_eq_true_eq]
            omega
          rw [here, later, List.append_nil]
          rfl
      | succ k =>
          have here : (inLine dialect file line first).filter
              (fun found => found.usage.line = line + (k + 1)) = [] := by
            rw [List.filter_eq_nil_iff]
            intro found mem
            have place := line_of_mem_inLine mem
            simp only [decide_eq_true_eq]
            omega
          have later := ih (line + 1) k at_k
          rw [show line + 1 + k = line + (k + 1) by omega] at later
          rw [here, later, List.nil_append]

/-- An occurrence of a text begins at a position of one of its lines. -/
theorem mem_occurrences_iff (dialect : Dialect) (file text : String) (found : Occurrence) :
    found ∈ occurrences dialect file text ↔
      ∃ (k : Nat) (cs : List Char) (i : Nat), (Text.lines text.toList)[k]? = some cs ∧
        i < cs.length ∧ found ∈ occurrencesAt dialect file (k + 1) (i + 1) (cs.drop i) := by
  simp only [occurrences, mem_inLines_iff, mem_inLine_iff, Nat.add_comm 1]
  constructor
  · rintro ⟨k, cs, at_k, i, below, mem⟩
    exact ⟨k, cs, i, at_k, below, mem⟩
  · rintro ⟨k, cs, i, at_k, below, mem⟩
    exact ⟨k, cs, at_k, i, below, mem⟩

/-- The occurrences of one line and column are those that begin there. -/
theorem filter_occurrences (dialect : Dialect) (file text : String) {k i : Nat}
    {cs : List Char} (at_k : (Text.lines text.toList)[k]? = some cs) (below : i < cs.length) :
    (occurrences dialect file text).filter
        (fun found => found.usage.line = k + 1 ∧ found.usage.column = i + 1) =
      occurrencesAt dialect file (k + 1) (i + 1) (cs.drop i) := by
  have of_line := filter_inLines dialect file 1 k at_k
  rw [Nat.add_comm 1 k] at of_line
  rw [← filter_inLine dialect file (k + 1) i below, ← of_line, List.filter_filter]
  apply List.filter_congr
  intro found _
  simp [Bool.and_comm]

/-! ## Keys of a scan -/

/-- The usages of some keys, each with the name that it is recorded under. -/
def recorded (keys : List CodeKey) : List (String × Usage) :=
  keys.flatMap fun key => key.usages.map fun usage => (key.name, usage)

/-- The dictionary that collects occurrences under their names. -/
def grouped (found : List Occurrence) : Dict String CodeKey :=
  Dict.group Occurrence.name (fun name => { name })
    (fun key item => key.addUsage item.usage) found

theorem collect_eq (found : List Occurrence) : collect found = (grouped found).values := rfl

theorem foldl_addUsage (key : CodeKey) (found : List Occurrence) :
    found.foldl (fun key item => key.addUsage item.usage) key =
      { name := key.name
        usages := key.usages ++ found.map Occurrence.usage
        isOptional := key.isOptional || found.any fun item => item.usage.isOptional } := by
  induction found generalizing key with
  | nil => simp
  | cons item rest ih =>
      rw [List.foldl_cons, ih]
      simp [CodeKey.addUsage, Bool.or_assoc]

/-- The occurrences of one name, made into one key. -/
def namedKey (found : List Occurrence) (name : String) : CodeKey where
  name := name
  usages := (found.filter fun item => item.name = name).map Occurrence.usage
  isOptional := (found.filter fun item => item.name = name).any fun item => item.usage.isOptional

/-- The value under a name holds the usages of that name's occurrences. -/
theorem eq_of_mem_grouped {found : List Occurrence} {name : String} {key : CodeKey}
    (mem : (name, key) ∈ (grouped found).toList) : key = namedKey found name := by
  rw [Dict.mem_toList_group _ _ _ mem, foldl_addUsage]
  rfl

theorem collect_eq_map (found : List Occurrence) :
    collect found = (grouped found).keys.map (namedKey found) := by
  rw [collect_eq, grouped, Dict.values_group]
  apply List.map_congr_left
  intro name _
  rw [foldl_addUsage]
  rfl

/-- Collecting makes one key of the occurrences of each name. -/
theorem mem_collect_iff (found : List Occurrence) (key : CodeKey) :
    key ∈ collect found ↔
      key.name ∈ found.map Occurrence.name ∧ key = namedKey found key.name := by
  rw [collect_eq_map, List.mem_map]
  constructor
  · rintro ⟨name, mem, rfl⟩
    exact ⟨(Dict.mem_keys_group _ _ _ _ _).1 mem, rfl⟩
  · rintro ⟨mem, key_eq⟩
    exact ⟨key.name, (Dict.mem_keys_group _ _ _ _ _).2 mem, key_eq.symm⟩

/-- Collecting occurrences loses none of them and adds none. -/
theorem recorded_collect_perm (found : List Occurrence) :
    List.Perm (recorded (collect found)) (found.map fun item => (item.name, item.usage)) := by
  have view_eq : recorded (collect found) =
      (grouped found).toList.flatMap fun pair =>
        pair.2.usages.map fun usage => (pair.1, usage) := by
    rw [recorded, collect_eq, Dict.values, List.flatMap_map]
    apply List.flatMap_congr
    rintro ⟨name, key⟩ mem
    rw [eq_of_mem_grouped mem]
    rfl
  rw [view_eq, List.map_eq_flatMap]
  refine Dict.flatMap_group_perm Occurrence.name (fun name => ({ name } : CodeKey))
    (fun key item => key.addUsage item.usage)
    (fun name key => key.usages.map fun usage => (name, usage))
    (fun item => [(item.name, item.usage)]) (fun name => rfl) ?_ found
  intro key item
  simp [CodeKey.addUsage]

/-- The usages with a given line and column, with their names. -/
def usagesAt (found : List (String × Usage)) (line column : Nat) : List (String × Usage) :=
  found.filter fun item => item.2.line = line ∧ item.2.column = column

/-- The usages of a scan at one place are the occurrences that begin there. -/
theorem usagesAt_scan_perm (dialect : Dialect) (file text : String) {k i : Nat}
    {cs : List Char} (at_k : (Text.lines text.toList)[k]? = some cs) (below : i < cs.length) :
    List.Perm (usagesAt (recorded (scan dialect file text)) (k + 1) (i + 1))
      ((occurrencesAt dialect file (k + 1) (i + 1) (cs.drop i)).map fun item =>
        (item.name, item.usage)) := by
  rw [← filter_occurrences dialect file text at_k below]
  have all := recorded_collect_perm (occurrences dialect file text)
  apply (all.filter _).trans
  rw [List.filter_map]
  rfl

end EnvConcord.Access

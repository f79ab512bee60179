import EnvConcord.Proofs.Collection.Dict
import EnvConcord.Proofs.Collection.Traversal
import EnvConcord.Proofs.Schema.Checks
import EnvConcord.Proofs.Text.Sorted
import Mathlib.Data.List.Nodup

/-!
# The findings about a key

The report of a check is read key by key.  What it says about a key depends on the field and
the value of that key alone: the first check that fails, the exposed default of a secret, and
for a key without a field whether it has a value.
-/

namespace EnvConcord.Schema

/-- All that a report says about a key, list by list. -/
def Report.about (report : Report) (key : String) : List Finding :=
  let breaches (group : BreachClass) (issues : List Issue) : List Finding :=
    (issues.filter fun issue => issue.key == key).map (.breach group)
  (report.missing.filter (· == key)).map (fun _ => .missing) ++
    breaches .choice report.invalidEnum ++ breaches .type report.invalidType ++
    breaches .format report.invalidFormat ++
    (report.sensitiveDefaults.filter fun issue => issue.key == key).map .exposedDefault ++
    (report.unused.filter (· == key)).map fun _ => .unused

/-- What is to be said about a key: the finding of the first check that fails and the exposed
default, or that a key without a field has a value. -/
def findingsFor (field : Option Field) (key : String) (value : Option String) : List Finding :=
  match field with
  | some field => (field.firstFinding? key value).toList ++ (field.exposure? key value).toList
  | none => if value.isSome then [.unused] else []

/-- Of items with distinct keys, one has the key of a given one. -/
theorem filter_key_eq_singleton {α : Type*} (keyOf : α → String) {items : List α}
    (distinct : (items.map keyOf).Nodup) {item : α} (mem : item ∈ items) :
    (items.filter fun other => keyOf other == keyOf item) = [item] := by
  induction items with
  | nil => simp at mem
  | cons first rest ih =>
      rw [List.map_cons, List.nodup_cons] at distinct
      rcases List.mem_cons.1 mem with rfl | later
      · have absent : ∀ other ∈ rest, ¬(keyOf other == keyOf item) = true := by
          intro other other_mem same
          exact distinct.1 (List.mem_map.2 ⟨other, other_mem, by simpa using same⟩)
        rw [List.filter_cons, if_pos (by simp), List.filter_eq_nil_iff.2 absent]
      · have apart : ¬(keyOf first == keyOf item) = true := by
          intro same
          exact distinct.1 (List.mem_map.2 ⟨item, later, (by simpa using same : _ = _).symm⟩)
        rw [List.filter_cons, if_neg apart, ih distinct.2 later]

/-! ## Checked fields -/

section Checked

variable {schema : Schema} {env : Variables} {checked : List Checked}

/-- The check of one entry of a schema. -/
def checkedEntry (env : Variables) (entry : String × Field) : Except TooManyDigits Checked :=
  (entry.2.verdict (env.value? entry.1)).map fun verdict =>
    { key := entry.1, field := entry.2, text := (env.value? entry.1).getD "", verdict }

theorem verdicts_eq (schema : Schema) (env : Variables) :
    verdicts schema env = schema.toList.mapM (checkedEntry env) := by
  have step_eq : (fun entry : String × Field => do
      return { key := entry.1, field := entry.2, text := (env.value? entry.1).getD ""
               verdict := ← entry.2.verdict (env.value? entry.1) : Checked }) =
        checkedEntry env := by
    funext entry
    rw [checkedEntry]
    cases entry.2.verdict (env.value? entry.1) <;> rfl
  rw [← step_eq]
  rfl

/-- What was checked of a field of the schema. -/
structure Checked.IsOf (c : Checked) (key : String) (field : Field) (env : Variables) : Prop where
  key_eq : c.key = key
  field_eq : c.field = field
  text_eq : c.text = (env.value? key).getD ""
  judged : field.verdict (env.value? key) = .ok c.verdict

theorem forall₂_of_verdicts (decided : verdicts schema env = .ok checked) :
    List.Forall₂ (fun entry c => c.IsOf entry.1 entry.2 env) schema.toList checked := by
  rw [verdicts_eq] at decided
  refine (Collection.mapM_eq_ok_iff.1 decided).imp ?_
  rintro ⟨key, field⟩ c judged
  rw [checkedEntry] at judged
  cases verdict_eq : field.verdict (env.value? key) with
  | error cause => simp [verdict_eq, Except.map] at judged
  | ok verdict =>
      rw [verdict_eq] at judged
      obtain rfl := Except.ok.inj judged
      exact ⟨rfl, rfl, rfl, verdict_eq⟩

theorem map_key_of_verdicts (decided : verdicts schema env = .ok checked) :
    checked.map Checked.key = schema.keys := by
  have related := forall₂_of_verdicts decided
  clear decided
  rw [Dict.keys]
  generalize schema.toList = entries at related ⊢
  induction related with
  | nil => rfl
  | cons here _ ih => rw [List.map_cons, List.map_cons, ih, here.key_eq]

/-- With the fields of a schema checked, one check belongs to each of them. -/
theorem filter_key_of_verdicts (decided : verdicts schema env = .ok checked) {key : String}
    {field : Field} (mem : (key, field) ∈ schema.toList) :
    ∃ c, (checked.filter fun c => c.key == key) = [c] ∧ c.IsOf key field env := by
  rcases Collection.exists_mem_of_forall₂ (forall₂_of_verdicts decided) mem with ⟨c, c_mem, c_of⟩
  have distinct : (checked.map Checked.key).Nodup := map_key_of_verdicts decided ▸ schema.nodup
  obtain rfl : c.key = key := c_of.key_eq
  exact ⟨c, filter_key_eq_singleton Checked.key distinct c_mem, c_of⟩

theorem filter_key_eq_nil (decided : verdicts schema env = .ok checked) {key : String}
    (absent : key ∉ schema.keys) : (checked.filter fun c => c.key == key) = [] := by
  rw [List.filter_eq_nil_iff]
  intro c c_mem same
  rw [← map_key_of_verdicts decided] at absent
  exact absent (List.mem_map.2 ⟨c, c_mem, by simpa using same⟩)

end Checked

/-! ## Lists of a report -/

section Collected

variable {schema : Schema} {env : Variables} {checked : List Checked}

@[simp]
theorem key_issue (field : Field) (key text message : String) :
    (field.issue key text message).key = key := rfl

/-- The issue of a checked field, if it belongs to a group. -/
def Checked.issueIn? (group : BreachClass) (c : Checked) : Option Issue :=
  (c.verdict.breach.filter fun breach => breach.group == group).map fun breach =>
    c.field.issue c.key c.text breach.message

theorem issuesOf_eq (checked : List Checked) (group : BreachClass) :
    issuesOf checked group = checked.filterMap (Checked.issueIn? group) := rfl

/-- The issue of a secret that has a default. -/
def Checked.exposedIssue? (c : Checked) : Option Issue :=
  if c.verdict.exposedDefault then
    some (c.field.issue c.key c.text "Sensitive field cannot have default value")
  else none

theorem exposed_eq_filterMap (checked : List Checked) :
    ((checked.filter fun c => c.verdict.exposedDefault).map fun c =>
        c.field.issue c.key c.text "Sensitive field cannot have default value") =
      checked.filterMap Checked.exposedIssue? := by
  induction checked with
  | nil => rfl
  | cons c rest ih =>
      cases exposed : c.verdict.exposedDefault <;> simp [Checked.exposedIssue?, exposed, ← ih]

/-- Issues that fields have under their own keys. -/
def IsOwn (say : Checked → Option Issue) : Prop := ∀ c issue, say c = some issue → issue.key = c.key

theorem isOwn_issueIn? (group : BreachClass) : IsOwn (Checked.issueIn? group) := by
  intro c issue said
  rcases Option.map_eq_some_iff.1 said with ⟨breach, -, rfl⟩
  rfl

theorem isOwn_exposedIssue? : IsOwn Checked.exposedIssue? := by
  intro c issue said
  rw [Checked.exposedIssue?] at said
  split at said
  · obtain rfl := Option.some.inj said
    rfl
  · contradiction

/-- The issues of a key are those of the fields under it. -/
theorem filter_key_filterMap {say : Checked → Option Issue} (own : IsOwn say)
    (checked : List Checked) (key : String) :
    ((checked.filterMap say).filter fun issue => issue.key == key) =
      (checked.filter fun c => c.key == key).filterMap say := by
  induction checked with
  | nil => rfl
  | cons c rest ih =>
      cases said : say c with
      | none => by_cases here : c.key = key <;> simp [here, said, ih]
      | some issue =>
          have key_eq := own c issue said
          by_cases here : c.key = key <;> simp [key_eq, here, said, ih]

/-- Issues come in the order of their fields, at most one of each. -/
theorem map_key_filterMap_sublist {say : Checked → Option Issue} (own : IsOwn say)
    (checked : List Checked) :
    List.Sublist ((checked.filterMap say).map Issue.key) (checked.map Checked.key) := by
  induction checked with
  | nil => exact List.Sublist.refl _
  | cons c rest ih =>
      cases said : say c with
      | none => simpa [said] using ih.cons c.key
      | some issue => simpa [said, own c issue said] using ih.cons_cons c.key

theorem filter_key_missing (checked : List Checked) (key : String) :
    ((checked.filter fun c => c.verdict.missing).map Checked.key).filter (· == key) =
      ((checked.filter fun c => c.key == key).filter fun c => c.verdict.missing).map
        Checked.key := by
  rw [List.filter_map, List.filter_filter, List.filter_filter]
  congr 2
  funext c
  exact Bool.and_comm _ _

/-- A key is unused exactly if it has a value and no field. -/
theorem mem_unusedKeys_iff (schema : Schema) (env : Variables) (key : String) :
    key ∈ unusedKeys schema env ↔ (env.value? key).isSome ∧ key ∉ schema.keys := by
  rw [unusedKeys, Text.mem_sort]
  simp only [List.mem_map, List.mem_filter, Bool.and_eq_true, Bool.not_eq_true',
    Bool.eq_false_iff, ne_eq, Dict.contains_iff_mem_keys, Variables.value?,
    Option.isSome_iff_exists]
  constructor
  · rintro ⟨⟨other, content⟩, ⟨mem, ⟨text, rfl⟩, absent⟩, rfl⟩
    rw [(Dict.get?_eq_some_iff env other (some text)).2 mem]
    exact ⟨⟨text, rfl⟩, absent⟩
  · rintro ⟨⟨text, value_eq⟩, absent⟩
    have get_eq : env.get? key = some (some text) := by
      rwa [Option.join_eq_some_iff] at value_eq
    exact ⟨(key, some text), ⟨(Dict.get?_eq_some_iff env key _).1 get_eq, ⟨text, rfl⟩, absent⟩, rfl⟩

theorem nodup_filter_keys (env : Variables) (keep : String × Option String → Bool) :
    ((env.toList.filter keep).map Prod.fst).Nodup :=
  (List.filter_sublist.map Prod.fst).nodup env.nodup

theorem filter_key_unused (schema : Schema) (env : Variables) (key : String) :
    (unusedKeys schema env).filter (· == key) =
      if (env.value? key).isSome ∧ key ∉ schema.keys then [key] else [] := by
  have distinct : (unusedKeys schema env).Nodup :=
    (Text.pairwise_lt_sort (nodup_filter_keys env _)).imp ne_of_lt
  rw [List.filter_beq]
  split
  next unused =>
      rw [List.count_eq_one_of_mem distinct ((mem_unusedKeys_iff schema env key).2 unused)]
      rfl
  next used =>
      rw [List.count_eq_zero_of_not_mem fun mem => used ((mem_unusedKeys_iff schema env key).1 mem)]
      rfl

/-- What a verdict reports about one checked field, list by list. -/
theorem findings_singleton {c : Checked}
    (settled : c.verdict.missing = true → c.verdict.breach = none) :
    (([c].filter fun c => c.verdict.missing).map Checked.key).map (fun _ => Finding.missing) ++
        ([c].filterMap (Checked.issueIn? .choice)).map (.breach .choice) ++
        ([c].filterMap (Checked.issueIn? .type)).map (.breach .type) ++
        ([c].filterMap (Checked.issueIn? .format)).map (.breach .format) ++
        ([c].filterMap Checked.exposedIssue?).map .exposedDefault =
      (c.verdict.finding? c.field c.key c.text).toList ++
        (c.verdict.exposure? c.field c.key c.text).toList := by
  have exposed_eq : ([c].filterMap Checked.exposedIssue?).map Finding.exposedDefault =
      (c.verdict.exposure? c.field c.key c.text).toList := by
    cases exposed : c.verdict.exposedDefault <;>
      simp [Checked.exposedIssue?, Verdict.exposure?, exposed]
  rw [exposed_eq]
  cases gone : c.verdict.missing with
  | true => simp [Checked.issueIn?, Verdict.finding?, gone, settled gone]
  | false =>
      cases found : c.verdict.breach with
      | none => simp [Checked.issueIn?, Verdict.finding?, gone, found]
      | some breach =>
          cases group_eq : breach.group <;>
            simp [Checked.issueIn?, Verdict.finding?, Field.breachFinding, Option.filter, gone,
              found, group_eq]

/-- What a report says about a key comes from the checked fields under it. -/
theorem about_collect (schema : Schema) (env : Variables) (checked : List Checked) (key : String) :
    let own := checked.filter fun c => c.key == key
    (collect schema env checked).about key =
      ((own.filter fun c => c.verdict.missing).map Checked.key).map (fun _ => .missing) ++
        (own.filterMap (Checked.issueIn? .choice)).map (.breach .choice) ++
        (own.filterMap (Checked.issueIn? .type)).map (.breach .type) ++
        (own.filterMap (Checked.issueIn? .format)).map (.breach .format) ++
        (own.filterMap Checked.exposedIssue?).map .exposedDefault ++
        (if (env.value? key).isSome ∧ key ∉ schema.keys then [key] else []).map fun _ =>
          .unused := by
  intro own
  simp only [Report.about, collect, issuesOf_eq, exposed_eq_filterMap, Text.filter_sort]
  rw [filter_key_missing, filter_key_unused, filter_key_filterMap isOwn_exposedIssue?,
    filter_key_filterMap (isOwn_issueIn? .choice), filter_key_filterMap (isOwn_issueIn? .type),
    filter_key_filterMap (isOwn_issueIn? .format)]

end Collected

/-! ## Reports -/

section Validated

variable {schema : Schema} {env : Variables} {report : Report}

theorem exists_verdicts_of_validate (returned : validate schema env = .ok report) :
    ∃ checked, verdicts schema env = .ok checked ∧ report = collect schema env checked := by
  rw [validate] at returned
  cases decided : verdicts schema env with
  | error cause => simp [decided, Except.map] at returned
  | ok checked =>
      rw [decided] at returned
      exact ⟨checked, rfl, (Except.ok.inj returned).symm⟩

/-- Under a key of the schema a report holds the first finding and the exposed default, and
under any other key whether it has a value. -/
theorem about_validate (returned : validate schema env = .ok report) (key : String) :
    report.about key = findingsFor (schema.get? key) key (env.value? key) := by
  obtain ⟨checked, decided, rfl⟩ := exists_verdicts_of_validate returned
  have about_eq := about_collect schema env checked key
  cases field_eq : schema.get? key with
  | none =>
      have absent := (Dict.get?_eq_none_iff schema key).1 field_eq
      rw [filter_key_eq_nil decided absent] at about_eq
      rw [about_eq, findingsFor]
      cases env.value? key <;> simp [absent]
  | some field =>
      have mem := (Dict.get?_eq_some_iff schema key field).1 field_eq
      have known : key ∈ schema.keys := List.mem_map_of_mem mem
      obtain ⟨c, own, c_of⟩ := filter_key_of_verdicts decided mem
      obtain ⟨first_eq, exposure_eq⟩ := Field.findings_of_verdict c_of.judged key
      rw [own] at about_eq
      have said := findings_singleton (Field.breach_eq_none_of_missing c_of.judged)
      rw [c_of.key_eq, c_of.field_eq, c_of.text_eq] at said
      rw [about_eq, said, findingsFor, first_eq, exposure_eq]
      simp [known]

/-- What the lists of a report hold: under each key what is to be said about it, in the order
of the schema or ascending. -/
structure Report.Describes (report : Report) (schema : Schema) (env : Variables) : Prop where
  about_eq : ∀ key, report.about key = findingsFor (schema.get? key) key (env.value? key)
  missing_ascending : report.missing.Pairwise (· < ·)
  unused_ascending : report.unused.Pairwise (· < ·)
  mem_unused_iff : ∀ key, key ∈ report.unused ↔ (env.value? key).isSome ∧ key ∉ schema.keys
  choice_order : List.Sublist (report.invalidEnum.map Issue.key) schema.keys
  type_order : List.Sublist (report.invalidType.map Issue.key) schema.keys
  format_order : List.Sublist (report.invalidFormat.map Issue.key) schema.keys
  exposure_order : List.Sublist (report.sensitiveDefaults.map Issue.key) schema.keys
  total_eq : report.summary.totalIssues =
    report.missing.length + report.unused.length + report.empty.length +
      report.invalidType.length + report.invalidFormat.length + report.invalidEnum.length +
      report.sensitiveDefaults.length + report.schemaErrors.length

theorem describes_collect {checked : List Checked} (decided : verdicts schema env = .ok checked)
    (about_eq : ∀ key, (collect schema env checked).about key =
      findingsFor (schema.get? key) key (env.value? key)) :
    (collect schema env checked).Describes schema env := by
  have keys_eq := map_key_of_verdicts decided
  have missing_distinct : ((checked.filter fun c => c.verdict.missing).map Checked.key).Nodup :=
    (List.filter_sublist.map Checked.key).nodup (keys_eq ▸ schema.nodup)
  have order {say : Checked → Option Issue} (own : IsOwn say) :
      List.Sublist ((checked.filterMap say).map Issue.key) schema.keys :=
    keys_eq ▸ map_key_filterMap_sublist own checked
  exact
    { about_eq
      missing_ascending := Text.pairwise_lt_sort missing_distinct
      unused_ascending := Text.pairwise_lt_sort (nodup_filter_keys env _)
      mem_unused_iff := mem_unusedKeys_iff schema env
      choice_order := order (isOwn_issueIn? .choice)
      type_order := order (isOwn_issueIn? .type)
      format_order := order (isOwn_issueIn? .format)
      exposure_order := by
        simp only [collect, exposed_eq_filterMap]
        exact order isOwn_exposedIssue?
      total_eq := by simp [collect] }

/-- A report describes the schema and the variables, and what it says about a key stays the
same when the fields and the values of other keys change. -/
theorem validate_describes (returned : validate schema env = .ok report) :
    report.Describes schema env ∧
      ∀ (other : Schema) (changed : Variables) (second : Report),
        validate other changed = .ok second →
          ∀ key, other.get? key = schema.get? key → changed.value? key = env.value? key →
            second.about key = report.about key := by
  constructor
  · have about_eq := about_validate returned
    obtain ⟨checked, decided, rfl⟩ := exists_verdicts_of_validate returned
    exact describes_collect decided about_eq
  · intro other changed second second_returned key same_field same_value
    rw [about_validate second_returned, about_validate returned, same_field, same_value]

end Validated

/-- The texts that begin with a certain letter. -/
def letterPattern : Pattern where
  source := "^b"
  regex := .seq (.anchor .start) (.char { items := [.single 98] })
  parsed := rfl

/-- The fields of a server, of five types. -/
def serverSchema : Schema :=
  .ofList
    [ ("HOST", { type := .string (some letterPattern) (some 2) (some 4) none }),
      ("PORT", { type := .number (some (.int 1)) (some (.int 65535)) none }),
      ("MODE", { allowedValues := some ["dev", "prod"], type := .enum none }),
      ("TOKEN", { isSensitive := true, type := .string none none none (some "t") }),
      ("DEBUG", { required := false, type := .boolean none }) ]

/-- Variables of which only one has no finding. -/
def serverVariables : Variables :=
  .ofList
    [ ("HOST", some "local"), ("PORT", some ""), ("MODE", some "dev"), ("TOKEN", some "secret"),
      ("DEBUG", some ""), ("OLD", some "1"), ("NONE", none) ]

/-- A text that is too long is not compared with the pattern, an empty value is missing where
one is required and checked where none is, and a secret is masked. -/
theorem validate_describes_server :
    ∃ report, validate serverSchema serverVariables = .ok report ∧
      report.Describes serverSchema serverVariables ∧
      report.about "HOST" =
        [.breach .type
          { key := "HOST", value := "local", expectedType := "string"
            issue := "String too long (max: 4)" }] ∧
      report.about "PORT" = [.missing] ∧
      report.about "MODE" = [] ∧
      report.about "TOKEN" =
        [.exposedDefault
          { key := "TOKEN", value := "********", expectedType := "string"
            issue := "Sensitive field cannot have default value", isSensitive := true }] ∧
      report.about "DEBUG" =
        [.breach .type
          { key := "DEBUG", value := "", expectedType := "boolean"
            issue := "Invalid boolean format" }] ∧
      report.about "OLD" = [.unused] := by
  have returns : (validate serverSchema serverVariables).isOk = true := by decide +kernel
  cases returned : validate serverSchema serverVariables with
  | error cause => simp [returned, Except.isOk, Except.toBool] at returns
  | ok report =>
      have described := (validate_describes returned).1
      refine ⟨report, rfl, described, ?_, ?_, ?_, ?_, ?_, ?_⟩ <;>
        rw [described.about_eq] <;> decide +kernel

end EnvConcord.Schema

import EnvConcord.Proofs.Schema.Findings
import EnvConcord.Report.Schema

/-!
# What a check reveals of secrets

Two checks are compared whose variables differ in the values of secret fields.  A report reveals
of such a value whether it is absent, empty or filled, and which of the checks fails first.  The
comparison rests on what is said of each field: reports are equal where the same is said of all
fields, whatever the fields and their values are.
-/

namespace EnvConcord.Schema

open Document Collection

/-! ## Reports that say the same -/

/-- Two checked fields of which a report says the same. -/
structure Checked.SaysSame (c d : Checked) : Prop where
  key_eq : c.key = d.key
  missing_eq : c.verdict.missing = d.verdict.missing
  issueIn_eq : ∀ group, c.issueIn? group = d.issueIn? group
  exposed_eq : c.exposedIssue? = d.exposedIssue?

section Said

variable {schema other : Schema} {env changed : Variables} {checked others : List Checked}

theorem filterMap_eq_of_saysSame {β : Type*} {f : Checked → Option β}
    (respect : ∀ c d, Checked.SaysSame c d → f c = f d)
    (pairs : List.Forall₂ Checked.SaysSame checked others) :
    checked.filterMap f = others.filterMap f := by
  induction pairs with
  | nil => rfl
  | cons here _ ih => rw [List.filterMap_cons, List.filterMap_cons, respect _ _ here, ih]

theorem missing_eq_filterMap (checked : List Checked) :
    (checked.filter fun c => c.verdict.missing).map Checked.key =
      checked.filterMap fun c => if c.verdict.missing then some c.key else none := by
  induction checked with
  | nil => rfl
  | cons c rest ih => cases gone : c.verdict.missing <;> simp [gone, ih]

/-- A report is made of what is said of the checked fields, the unused keys, and the numbers of
fields and variables. -/
theorem collect_eq_of_saysSame (pairs : List.Forall₂ Checked.SaysSame checked others)
    (unused_eq : unusedKeys schema env = unusedKeys other changed)
    (fields_eq : schema.keys.length = other.keys.length)
    (variables_eq : env.keys.length = changed.keys.length) :
    collect schema env checked = collect other changed others := by
  have missing_eq := filterMap_eq_of_saysSame
    (f := fun c => if c.verdict.missing then some c.key else none)
    (fun c d same => by rw [same.missing_eq, same.key_eq]) pairs
  have issues_eq (group : BreachClass) :=
    filterMap_eq_of_saysSame (fun c d same => same.issueIn_eq group) pairs
  have exposed_eq := filterMap_eq_of_saysSame (fun c d same => same.exposed_eq) pairs
  simp only [collect, issuesOf_eq, exposed_eq_filterMap, missing_eq_filterMap, missing_eq,
    issues_eq, exposed_eq, unused_eq, fields_eq, variables_eq]

/-- Two entries of which the same is said: their verdicts agree, and issues with their values
read the same. -/
structure SaidAlike (faults : TooManyDigits → TooManyDigits → Prop) (env changed : Variables)
    (entry other : String × Field) : Prop where
  key_eq : entry.1 = other.1
  verdict_agree : Agree faults Eq (entry.2.verdict (env.value? entry.1))
    (other.2.verdict (changed.value? other.1))
  issue_eq : ∀ message,
    entry.2.issue entry.1 ((env.value? entry.1).getD "") message =
      other.2.issue other.1 ((changed.value? other.1).getD "") message

theorem SaidAlike.saysSame {faults : TooManyDigits → TooManyDigits → Prop}
    {entry second : String × Field} (alike : SaidAlike faults env changed entry second) :
    Agree faults Checked.SaysSame (checkedEntry env entry) (checkedEntry changed second) := by
  refine alike.verdict_agree.map ?_
  rintro verdict _ rfl
  exact
    { key_eq := alike.key_eq
      missing_eq := rfl
      issueIn_eq := fun group => by simp only [Checked.issueIn?, alike.issue_eq]
      exposed_eq := by simp only [Checked.exposedIssue?, alike.issue_eq] }

/-- Where the same is said of all entries, the reports are equal. -/
theorem validate_agree {faults : TooManyDigits → TooManyDigits → Prop}
    (alike : List.Forall₂ (SaidAlike faults env changed) schema.toList other.toList)
    (unused_eq : unusedKeys schema env = unusedKeys other changed)
    (variables_eq : env.keys.length = changed.keys.length) :
    Agree faults Eq (validate schema env) (validate other changed) := by
  have fields_eq : schema.keys.length = other.keys.length := by
    simpa [Dict.keys] using alike.length_eq
  rw [validate, validate, verdicts_eq, verdicts_eq]
  refine (Agree.mapM (alike.imp fun _ _ same => same.saysSame)).map ?_
  exact fun _ _ pairs => collect_eq_of_saysSame pairs unused_eq fields_eq variables_eq

end Said

/-! ## Values of secrets -/

/-- What the checks of a text come to: the first that fails, if one fails, unless an integer of too
many digits stops them. -/
inductive Outcome
  | passes
  | fails (check : Check)
  | stops
  deriving DecidableEq, Repr

/-- The first check that a text fails. -/
def Field.failure? (field : Field) (text : String) : Option Check :=
  Check.ofText.find? fun check => (field.breachAt? text check).isSome

/-- The outcome of the checks of a text. A text that is not allowed is not converted. -/
def Field.outcome (field : Field) (text : String) : Outcome :=
  match field.typeBreach? text, field.failure? text with
  | _, some .choice => .fails .choice
  | .error _, _ => .stops
  | .ok _, some check => .fails check
  | .ok _, none => .passes

/-- Two values of a field that a check is to tell nothing more about. -/
inductive Field.Alike (field : Field) : Option String → Option String → Prop
  | absent : field.Alike none none
  | empty : field.Alike (some "") (some "")
  | filled {first second : String} (first_filled : first ≠ "") (second_filled : second ≠ "")
      (same : field.outcome first = field.outcome second) : field.Alike (some first) (some second)

/-- Variables that differ in what they give to secret fields only, and there by values of one
outcome. -/
structure Variables.DifferInSecrets (schema : Schema) (env changed : Variables) : Prop where
  keys_iff : ∀ key, key ∈ env.keys ↔ key ∈ changed.keys
  open_eq : ∀ entry ∈ schema.toList, entry.2.isSensitive = false →
    env.value? entry.1 = changed.value? entry.1
  secret_alike : ∀ entry ∈ schema.toList, entry.2.isSensitive = true →
    entry.2.Alike (env.value? entry.1) (changed.value? entry.1)
  unknown_iff : ∀ key, key ∉ schema.keys → ((env.value? key).isSome ↔ (changed.value? key).isSome)

/-- Whether the checks of no secret are stopped. -/
def Variables.SecretsSettled (schema : Schema) (env : Variables) : Prop :=
  ∀ entry ∈ schema.toList, entry.2.isSensitive = true →
    ∀ text, env.value? entry.1 = some text → entry.2.outcome text ≠ .stops

section Outcomes

variable {field : Field} {first second text : String}

theorem findSome?_eq_bind_find? {α β : Type*} (f : α → Option β) (items : List α) :
    items.findSome? f = (items.find? fun item => (f item).isSome).bind f := by
  induction items with
  | nil => rfl
  | cons item rest ih =>
      rw [List.findSome?_cons, List.find?_cons]
      cases found : f item <;> simp [found, ih]

theorem Field.isSome_of_failure? {check : Check} (failed : field.failure? text = some check) :
    (field.breachAt? text check).isSome = true := by
  simpa using List.find?_some failed

/-- A check says nothing about a text but that it fails. -/
theorem Field.breachAt?_eq_of_isSome {check : Check}
    (first_fails : (field.breachAt? first check).isSome = true)
    (second_fails : (field.breachAt? second check).isSome = true) :
    field.breachAt? first check = field.breachAt? second check := by
  cases check with
  | presence => rfl
  | choice =>
      cases choices_eq : field.allowedValues with
      | none => simp [breachAt?, choices_eq]
      | some choices =>
          by_cases first_in : first ∈ choices <;> by_cases second_in : second ∈ choices <;>
            simp_all [breachAt?, Option.filter]
  | conversion =>
      simp only [breachAt?, Option.isSome_ite] at first_fails second_fails ⊢
      rw [if_pos first_fails, if_pos second_fails]
  | lowerBound =>
      simp only [breachAt?, lowBreach?] at *
      split <;> simp_all
  | upperBound =>
      simp only [breachAt?, highBreach?] at *
      split <;> simp_all
  | pattern =>
      cases pattern_eq : field.pattern? with
      | none => simp [breachAt?, pattern_eq]
      | some pattern =>
          simp only [breachAt?, pattern_eq, Option.filter] at *
          split <;> simp_all

/-- The failure of a text that is not allowed is just that, and no other failure is. -/
theorem Field.failure?_eq_choice_iff :
    field.failure? text = some .choice ↔ field.breachAt? text .choice ≠ none := by
  rw [failure?, Check.ofText, List.find?_cons]
  cases choice : field.breachAt? text .choice with
  | some breach => simp
  | none =>
      simp only [Option.isSome_none, ne_eq, not_true_eq_false, iff_false]
      intro found
      simpa using List.mem_of_find?_eq_some found

theorem Field.outcome_of_decided {own : Option Breach} (decided : field.typeBreach? text = .ok own) :
    field.outcome text = (field.failure? text).elim .passes .fails := by
  rw [outcome, decided]
  cases field.failure? text with
  | none => rfl
  | some check => cases check <;> rfl

theorem Field.outcome_of_stop {cause : TooManyDigits} (stop : field.typeBreach? text = .error cause)
    (allowed : field.breachAt? text .choice = none) : field.outcome text = .stops := by
  have passed : field.failure? text ≠ some .choice := fun failed =>
    failure?_eq_choice_iff.1 failed allowed
  rw [outcome, stop]
  split <;> simp_all

/-- The outcome decides the first breach, or that there is no result. -/
theorem Field.breach?_of_outcome (field : Field) (text : String) :
    match field.outcome text with
    | .passes => field.breach? text = .ok none
    | .fails check =>
        field.breach? text = .ok (field.breachAt? text check) ∧
          (field.breachAt? text check).isSome = true
    | .stops => ∃ cause, field.breach? text = .error cause := by
  by_cases allowed : field.breachAt? text .choice = none
  · cases own : field.typeBreach? text with
    | error cause =>
        rw [outcome_of_stop own allowed, breach?_of_allowed allowed, own]
        exact ⟨cause, rfl⟩
    | ok breach =>
        have decided : field.breach? text = .ok (breach.or (field.formatBreach? text)) := by
          rw [breach?_of_allowed allowed, own]
          rfl
        have first_eq := breach?_eq decided
        rw [findSome?_eq_bind_find?] at first_eq
        change (field.failure? text).bind (field.breachAt? text) = _ at first_eq
        rw [outcome_of_decided own, decided, ← first_eq]
        cases failed : field.failure? text with
        | none => rfl
        | some check => exact ⟨rfl, isSome_of_failure? failed⟩
  · have failed := failure?_eq_choice_iff.2 allowed
    have outcome_eq : field.outcome text = .fails .choice := by rw [outcome, failed]
    rw [outcome_eq]
    refine ⟨?_, isSome_of_failure? failed⟩
    cases choice : field.breachAt? text .choice with
    | none => exact absurd choice allowed
    | some breach => exact breach?_of_not_allowed choice

/-- Texts with one outcome have one breach, unless they stop the check. -/
theorem Field.breach?_agree {faults : TooManyDigits → TooManyDigits → Prop}
    (same : field.outcome first = field.outcome second)
    (stop : field.outcome first = .stops → ∀ cause other, faults cause other) :
    Agree faults Eq (field.breach? first) (field.breach? second) := by
  have first_of := field.breach?_of_outcome first
  have second_of := field.breach?_of_outcome second
  rw [← same] at second_of
  cases outcome_eq : field.outcome first with
  | passes =>
      rw [outcome_eq] at first_of second_of
      rw [first_of, second_of]
      exact .ok rfl
  | fails check =>
      rw [outcome_eq] at first_of second_of
      rw [first_of.1, second_of.1]
      exact .ok (breachAt?_eq_of_isSome first_of.2 second_of.2)
  | stops =>
      rw [outcome_eq] at first_of second_of
      obtain ⟨cause, first_eq⟩ := first_of
      obtain ⟨other, second_eq⟩ := second_of
      rw [first_eq, second_eq]
      exact .error (stop outcome_eq cause other)

/-- An alike value of a secret field gets the same verdict. -/
theorem Field.verdict_agree {faults : TooManyDigits → TooManyDigits → Prop}
    (reflexive : ∀ cause, faults cause cause) {value changed : Option String}
    (alike : field.Alike value changed)
    (stop : ∀ text, value = some text → field.outcome text = .stops →
      ∀ cause other, faults cause other) :
    Agree faults Eq (field.verdict value) (field.verdict changed) := by
  cases alike with
  | absent => exact .of_eq reflexive rfl
  | empty => exact .of_eq reflexive rfl
  | @filled first second first_filled second_filled same =>
      have verdict_eq {text : String} (filled : text ≠ "") : field.verdict (some text) =
          (field.breach? text).map fun breach =>
            { exposedDefault := field.isSensitive && field.hasDefault, breach } := by
        rw [verdict, if_neg (by simp [filled])]
        cases field.breach? text <;> rfl
      rw [verdict_eq first_filled, verdict_eq second_filled]
      refine (breach?_agree same (stop first rfl)).map ?_
      rintro breach _ rfl
      rfl

/-- Nothing of an alike value of a secret field is shown. -/
theorem Field.issue_eq_of_alike {value changed : Option String} (secret : field.isSensitive = true)
    (alike : field.Alike value changed) (key message : String) :
    field.issue key (value.getD "") message = field.issue key (changed.getD "") message := by
  have mask_eq : field.mask (some (value.getD "")) = field.mask (some (changed.getD "")) := by
    cases alike with
    | absent => rfl
    | empty => rfl
    | filled first_filled second_filled same => simp [mask, first_filled, second_filled, secret]
  rw [issue, issue, mask_eq]

end Outcomes

section Secrets

variable {schema : Schema} {env changed : Variables}

theorem unusedKeys_eq (unknown_iff : ∀ key, key ∉ schema.keys →
      ((env.value? key).isSome ↔ (changed.value? key).isSome)) :
    unusedKeys schema env = unusedKeys schema changed := by
  apply Text.eq_of_mem_iff_of_pairwise_lt
  · exact Text.pairwise_lt_sort (nodup_filter_keys env _)
  · exact Text.pairwise_lt_sort (nodup_filter_keys changed _)
  · intro key
    rw [mem_unusedKeys_iff, mem_unusedKeys_iff]
    exact and_congr_left fun unknown => unknown_iff key unknown

theorem length_keys_eq (keys_iff : ∀ key, key ∈ env.keys ↔ key ∈ changed.keys) :
    env.keys.length = changed.keys.length :=
  ((List.perm_ext_iff_of_nodup env.nodup changed.nodup).2 keys_iff).length_eq

/-- Checks of variables that differ in secrets agree; only where a secret stops the check the
faults may differ. -/
theorem Variables.DifferInSecrets.validate_agree
    {faults : TooManyDigits → TooManyDigits → Prop} (reflexive : ∀ cause, faults cause cause)
    (differ : Variables.DifferInSecrets schema env changed)
    (stop : ¬env.SecretsSettled schema → ∀ cause other, faults cause other) :
    Agree faults Eq (validate schema env) (validate schema changed) := by
  apply Schema.validate_agree _ (unusedKeys_eq differ.unknown_iff)
    (length_keys_eq differ.keys_iff)
  rw [List.forall₂_same]
  intro entry mem
  cases secret : entry.2.isSensitive with
  | false =>
      have value_eq := differ.open_eq entry mem secret
      exact ⟨rfl, .of_eq reflexive (by rw [value_eq]), fun message => by rw [value_eq]⟩
  | true =>
      have alike := differ.secret_alike entry mem secret
      exact
        { key_eq := rfl
          verdict_agree := Field.verdict_agree reflexive alike fun text value_eq stops =>
            stop fun settled => settled entry mem secret text value_eq stops
          issue_eq := Field.issue_eq_of_alike secret alike entry.1 }

/-- A check comes to equal reports for variables that differ in secrets of one outcome, and so
does every format of the report.  Where no secret stops the check, it comes to equal faults as
well. -/
theorem validate_reveals_outcomes (differ : Variables.DifferInSecrets schema env changed) :
    (∀ report, validate schema env = .ok report ↔ validate schema changed = .ok report) ∧
      (∀ report second, validate schema env = .ok report → validate schema changed = .ok second →
        ∀ options, EnvConcord.Report.schema report options =
          EnvConcord.Report.schema second options) ∧
      (env.SecretsSettled schema → validate schema env = validate schema changed) := by
  have alike : Agree (fun _ _ => True) Eq (validate schema env) (validate schema changed) :=
    differ.validate_agree (fun _ => trivial) fun _ _ _ => trivial
  refine ⟨alike.eq_ok_iff, ?_, ?_⟩
  · intro report second returned second_returned options
    rw [alike.eq_ok_iff report, second_returned] at returned
    rw [Except.ok.inj returned]
  · intro settled
    exact (differ.validate_agree (fun _ => rfl) fun open_end => absurd settled open_end).eq

end Secrets

/-- An open field, and secret fields of three types. -/
def vaultSchema : Schema where
  toList :=
    [ ("HOST", { type := .string none none none none, allows_of_enum := by decide }),
      ("PIN", { isSensitive := true
                type := .number (some (.int 1000)) none (some (.int 1))
                allows_of_enum := by decide }),
      ("MODE", { isSensitive := true
                 allowedValues := some ["dev", "prod"]
                 type := .enum none
                 allows_of_enum := by decide }),
      ("TOKEN", { required := false
                  isSensitive := true
                  type := .string none none none none
                  allows_of_enum := by decide }) ]

/-- Variables with a pin that is too small, a mode that is not allowed, and a token. -/
def firstVault : Variables where
  toList :=
    [ ("HOST", some "local"), ("PIN", some "12"), ("MODE", some "test"), ("TOKEN", some "k1"),
      ("OLD", some "1") ]

/-- Variables with other secrets of the same outcomes, in another order. -/
def secondVault : Variables where
  toList :=
    [ ("TOKEN", some "another key"), ("HOST", some "local"), ("PIN", some "7"), ("MODE", some "x"),
      ("OLD", some "2") ]

theorem differInSecrets_vaults : Variables.DifferInSecrets vaultSchema firstVault secondVault where
  keys_iff := by
    intro key
    simp only [Dict.keys, firstVault, secondVault, List.map_cons, List.map_nil, List.mem_cons]
    tauto
  open_eq := by
    intro entry mem isOpen
    simp only [vaultSchema, List.mem_cons, List.not_mem_nil, or_false] at mem
    rcases mem with rfl | rfl | rfl | rfl
    · decide
    all_goals contradiction
  secret_alike := by
    intro entry mem secret
    simp only [vaultSchema, List.mem_cons, List.not_mem_nil, or_false] at mem
    rcases mem with rfl | rfl | rfl | rfl
    · contradiction
    all_goals exact .filled (by decide) (by decide) (by decide +kernel)
  unknown_iff := by
    intro key unknown
    by_cases old : key = "OLD"
    · subst old
      decide
    · have absent (env : Variables)
          (keys : ∀ other ∈ env.keys, other = "OLD" ∨ other ∈ vaultSchema.keys) :
          env.value? key = none := by
        rw [Variables.value?, (Dict.get?_eq_none_iff env key).2, Option.join_none]
        intro mem
        exact (keys key mem).elim old unknown
      rw [absent firstVault (by decide), absent secondVault (by decide)]

/-- A pin that is too small and a mode that is not allowed are reported, with masks in place of
the values. -/
theorem validate_reveals_outcomes_vaults :
    Variables.DifferInSecrets vaultSchema firstVault secondVault ∧
      firstVault.SecretsSettled vaultSchema ∧
      validate vaultSchema firstVault = validate vaultSchema secondVault ∧
      ∃ report, validate vaultSchema firstVault = .ok report ∧
        validate vaultSchema secondVault = .ok report ∧
        report.invalidType.map Issue.value = ["********"] ∧
        report.invalidEnum.map Issue.key = ["MODE"] := by
  have settled : firstVault.SecretsSettled vaultSchema := by
    intro entry mem secret text value_eq
    simp only [vaultSchema, List.mem_cons, List.not_mem_nil, or_false] at mem
    rcases mem with rfl | rfl | rfl | rfl
    · contradiction
    · have known : firstVault.value? "PIN" = some "12" := by decide
      obtain rfl := Option.some.inj (known.symm.trans value_eq)
      decide +kernel
    · have known : firstVault.value? "MODE" = some "test" := by decide
      obtain rfl := Option.some.inj (known.symm.trans value_eq)
      decide +kernel
    · have known : firstVault.value? "TOKEN" = some "k1" := by decide
      obtain rfl := Option.some.inj (known.symm.trans value_eq)
      decide +kernel
  have revealed := validate_reveals_outcomes differInSecrets_vaults
  have shown : (validate vaultSchema firstVault).map (fun report =>
      (report.invalidType.map Issue.value, report.invalidEnum.map Issue.key)) =
        .ok (["********"], ["MODE"]) := by decide +kernel
  cases returned : validate vaultSchema firstVault with
  | error cause => simp [returned, Except.map] at shown
  | ok report =>
      rw [returned] at shown
      obtain ⟨type_eq, enum_eq⟩ := Prod.mk.inj (Except.ok.inj shown)
      refine ⟨differInSecrets_vaults, settled, ?_, report, rfl, ?_, type_eq, enum_eq⟩
      · rw [← returned]
        exact revealed.2.2 settled
      · exact (revealed.1 report).1 returned

end EnvConcord.Schema

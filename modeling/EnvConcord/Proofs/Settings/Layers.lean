import EnvConcord.Proofs.Settings.Mapping

/-!
# Layers on top of each other

Each layer gives some items.  Two lists accumulate over the layers, and of every other item the
last value that is given counts.  A variable replaces what the layers come to.
-/

namespace EnvConcord.Settings

open Document

/-- Whether the lists that layers give an item accumulate. -/
def Item.accumulates : Item → Bool
  | .allowOptional | .ignoreKeys => true
  | _ => false

/-- The texts in a list. -/
def textsOf (value : Value) : List String := (textItems? value).getD []

/-- What values that are given one after another come to, on top of a default. -/
def Item.merged (item : Item) (default : Value) (values : List Value) : Value :=
  if item.accumulates then Value.texts (textsOf default ++ values.flatMap textsOf).eraseDups
  else values.getLast?.getD default

/-- The variable that an item is taken from. -/
def Item.variableName? : Item → Option String
  | .logFormat => none
  | item => some item.field.variable

/-- The value that the text of a variable stands for. -/
def Item.converted (item : Item) (text : String) : Value :=
  match item with
  | .paths | .envFiles | .allowOptional | .ignoreKeys | .ignorePatterns =>
      Value.texts (splitItems text)
  | .exitOnError | .includeOptional => .bool (saysYes text)
  | .reportFormat | .logLevel | .logFormat => .text text

/-- The value of an item by its variable, if variables count and it is set, and otherwise by
the mappings on top of the default. -/
def Item.expected (item : Item) (sources : List Mapping)
    (environment : Option (String → Option String)) : Value :=
  match environment.bind fun lookup => item.variableName?.bind lookup with
  | some text => item.converted text
  | none => item.merged (valueOf {} item) (sources.filterMap fun source => givenBy source item)

/-! ## Lists -/

@[simp]
theorem textsOf_texts (items : List String) : textsOf (Value.texts items) = items := by
  rw [textsOf, textItems?_eq_some_iff.2 rfl]
  rfl

theorem distinct_eq_eraseDups (items : List String) : distinct items = items.eraseDups := by
  induction items using List.reverseRecOn with
  | nil => rfl
  | append_singleton items item ih =>
      have step : distinct (items ++ [item]) =
          if (distinct items).contains item then distinct items else distinct items ++ [item] := by
        rw [distinct, List.foldl_append]
        rfl
      rw [Collection.eraseDups_append_singleton, step, ih]
      simp [List.mem_eraseDups]

theorem accumulate_eq (base : List String) (given : Option (List String)) :
    accumulate base given = given.elim base fun items => (base ++ items).eraseDups := by
  cases given with
  | none => rfl
  | some items => exact distinct_eq_eraseDups _

/-! ## Layers -/

/-- Values that come one after another come to the same when the earlier ones are merged
first. -/
theorem Item.merged_append (item : Item) (default : Value) (values : List Value) (value : Value) :
    item.merged default (values ++ [value]) =
      if item.accumulates then
        Value.texts (textsOf (item.merged default values) ++ textsOf value).eraseDups
      else value := by
  cases accumulating : item.accumulates with
  | true =>
      simp only [merged, accumulating, if_true, textsOf_texts, List.flatMap_append,
        List.flatMap_singleton, ← List.append_assoc, Collection.eraseDups_append_eraseDups]
  | false => simp [merged, accumulating]

/-- A layer merges what it gives an item. -/
theorem valueOf_apply (base : Settings) (layer : Override) (item : Item) :
    valueOf (apply base layer) item =
      (layer.valueOf? item).elim (valueOf base item) fun value =>
        if item.accumulates then
          Value.texts (textsOf (valueOf base item) ++ textsOf value).eraseDups
        else value := by
  obtain ⟨paths, envFiles, allowOptional, ignoreKeys, ignorePatterns, reportFormat, exitOnError,
    includeOptional, logging⟩ := layer
  cases item with
  | allowOptional =>
      simp only [valueOf, apply, accumulate_eq, Override.valueOf?]
      cases allowOptional <;> simp [Item.accumulates]
  | ignoreKeys =>
      simp only [valueOf, apply, accumulate_eq, Override.valueOf?]
      cases ignoreKeys <;> simp [Item.accumulates]
  | logLevel =>
      cases logging with
      | none => rfl
      | some members => obtain ⟨level, -⟩ := members; cases level <;> rfl
  | logFormat =>
      cases logging with
      | none => rfl
      | some members => obtain ⟨-, format⟩ := members; cases format <;> rfl
  | paths => cases paths <;> rfl
  | envFiles => cases envFiles <;> rfl
  | ignorePatterns => cases ignorePatterns <;> rfl
  | reportFormat => cases reportFormat <;> rfl
  | exitOnError => cases exitOnError <;> rfl
  | includeOptional => cases includeOptional <;> rfl

/-- Layers on top of the defaults come to what they give merged. -/
theorem valueOf_foldl_applyOptional (layers : List (Option Override)) (item : Item) :
    valueOf (layers.foldl applyOptional {}) item =
      item.merged (valueOf {} item)
        (layers.filterMap fun layer => layer.bind fun o => o.valueOf? item) := by
  -- From the top layer down, since each layer is applied to what the earlier ones come to.
  induction layers using List.reverseRecOn with
  | nil => cases item <;> rfl
  | append_singleton layers layer ih =>
      rw [List.foldl_append, List.filterMap_append]
      cases layer with
      | none => simpa [applyOptional] using ih
      | some layer =>
          have applied := valueOf_apply (layers.foldl applyOptional {}) layer item
          rw [ih] at applied
          cases given : layer.valueOf? item with
          | none => simpa [applyOptional, given] using applied
          | some value => simpa [applyOptional, given, Item.merged_append] using applied

/-! ## Variables -/

theorem valueOf_setFromText (s : Settings) (text : String) (field : Field) (item : Item) :
    valueOf (setFromText s text field) item =
      if item.variableName? = some field.variable then item.converted text else valueOf s item := by
  cases field <;> cases item <;> rfl

/-- Replace a setting if its variable is set. -/
def setFromVariable (environment : String → Option String) (s : Settings) (field : Field) :
    Settings :=
  match environment field.variable with
  | some text => setFromText s text field
  | none => s

theorem valueOf_setFromVariable (environment : String → Option String) (s : Settings)
    (field : Field) (item : Item) :
    valueOf (setFromVariable environment s field) item =
      if item.variableName? = some field.variable then
        (environment field.variable).elim (valueOf s item) item.converted
      else valueOf s item := by
  rw [setFromVariable]
  cases environment field.variable with
  | none => simp
  | some text => exact valueOf_setFromText s text field item

/-- After some settings were gone through, those items are replaced whose variables belong to
them and are set. -/
theorem valueOf_foldl_setFromVariable (environment : String → Option String) (s : Settings)
    (fields : List Field) (item : Item) :
    valueOf (fields.foldl (setFromVariable environment) s) item =
      ((item.variableName?.filter fun name => (fields.map Field.variable).contains name).bind
        environment).elim (valueOf s item) item.converted := by
  induction fields using List.reverseRecOn with
  | nil => cases item.variableName? <;> simp [Option.filter]
  | append_singleton fields field ih =>
      rw [List.foldl_append, List.foldl_cons, List.foldl_nil, valueOf_setFromVariable, ih]
      cases item.variableName? with
      | none => simp
      | some name =>
          by_cases own : name = field.variable
          · subst own
            cases text_eq : environment field.variable with
            | none =>
                by_cases before : ∃ other ∈ fields, other.variable = field.variable <;>
                  simp [Option.filter, text_eq, before]
            | some text => simp [Option.filter, text_eq]
          · simp [own, Option.filter]

/-- A variable that is set replaces its item and nothing else. -/
theorem valueOf_applyEnvironment (environment : String → Option String) (s : Settings)
    (item : Item) :
    valueOf (applyEnvironment environment s) item =
      (item.variableName?.bind environment).elim (valueOf s item) item.converted := by
  have fields_eq : applyEnvironment environment s =
      Field.all.foldl (setFromVariable environment) s := rfl
  rw [fields_eq, valueOf_foldl_setFromVariable]
  cases item <;> rfl

end EnvConcord.Settings

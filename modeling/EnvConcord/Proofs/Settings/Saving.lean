import EnvConcord.Proofs.Document.Printed
import EnvConcord.Proofs.Settings.Layers
import EnvConcord.Proofs.Settings.Sources
import EnvConcord.Proofs.Tree.Writing
import EnvConcord.Settings.Store

/-!
# Saved settings

Settings that were saved are loaded as they were but for the two lists that accumulate: the
default keys come first in the list of ignored keys, and no key is repeated in either list.
-/

namespace EnvConcord.Settings

open Document

/-! ## The document of settings -/

/-- The value that a setting is saved as. -/
def savedValue (s : Settings) : Field → Value
  | .paths => Value.texts s.paths
  | .envFiles => Value.texts s.envFiles
  | .allowOptional => Value.texts s.allowOptional
  | .ignoreKeys => Value.texts s.ignoreKeys
  | .ignorePatterns => Value.texts s.ignorePatterns
  | .reportFormat => .text s.reportFormat
  | .exitOnError => .bool s.exitOnError
  | .includeOptional => .bool s.includeOptional
  | .logging => .object [("level", s.logging.level), ("format", s.logging.format)]

/-- The settings in the order in which they are saved, with their values. -/
def savedEntries (s : Settings) : List (String × Value) :=
  Field.all.map fun field => (field.name, s.savedValue field)

theorem toValue_eq (s : Settings) : s.toValue = .object s.savedEntries := rfl

/-- Whether the members of logging, which are kept as they come, are texts. -/
def LogsTexts (s : Settings) : Prop :=
  isText s.logging.level = true ∧ isText s.logging.format = true

theorem isJson_of_isText {value : Value} (text : isText value = true) : value.IsJson := by
  cases value with
  | text s => exact .text s
  | _ => contradiction

theorem isJson_texts (items : List String) : (Value.texts items).IsJson := by
  refine .list fun item mem => ?_
  obtain ⟨s, -, rfl⟩ := List.mem_map.1 mem
  exact .text s

theorem isJson_savedValue {s : Settings} (logs : s.LogsTexts) (field : Field) :
    (s.savedValue field).IsJson := by
  cases field with
  | reportFormat => exact .text _
  | exitOnError | includeOptional => exact .bool _
  | logging =>
      refine .object (by decide : ["level", "format"].Nodup) ?_
      simp only [List.forall_mem_cons]
      exact ⟨isJson_of_isText logs.1, isJson_of_isText logs.2, List.forall_mem_nil _⟩
  | _ => exact isJson_texts _

/-- JSON can express settings whose members of logging are texts. -/
theorem isJson_toValue {s : Settings} (logs : s.LogsTexts) : s.toValue.IsJson := by
  rw [toValue_eq]
  refine .object ?_ ?_
  · exact (by decide : (Field.all.map Field.name).Nodup)
  · intro entry mem
    obtain ⟨field, -, rfl⟩ := List.mem_map.1 mem
    exact isJson_savedValue logs field

/-! ## Reading the document -/

theorem finalValue?_savedEntries (s : Settings) (field : Field) :
    finalValue? (Json.membersOf s.savedEntries) field = some (s.savedValue field) := by
  cases field <;> rfl

theorem fits_savedValue (s : Settings) (field : Field) :
    field.fits (s.savedValue field) = true := by
  have texts (items : List String) : (textItems? (Value.texts items)).isSome = true := by
    rw [textItems?_eq_some_iff.2 rfl, Option.isSome_some]
  cases field with
  | reportFormat | exitOnError | includeOptional | logging => rfl
  | _ => exact texts _

theorem unknownKeys_savedEntries (s : Settings) :
    unknownKeys (Json.membersOf s.savedEntries) = [] := rfl

/-- The document gives every item its value in the settings. -/
theorem givenBy_savedEntries (s : Settings) (item : Item) :
    givenBy (Json.membersOf s.savedEntries) item = some (valueOf s item) := by
  rw [givenBy, finalValue?_savedEntries]
  cases item <;> rfl

/-! ## Loading -/

/-- What settings are loaded as after they were saved. -/
def reloaded (s : Settings) : Settings :=
  { s with
    allowOptional := s.allowOptional.eraseDups
    ignoreKeys := ("NODE_ENV" :: s.ignoreKeys).eraseDups }

/-- A layer that gives all items of settings replaces the defaults, but for the lists that
accumulate. -/
theorem apply_eq_reloaded {s : Settings} {layer : Override}
    (gives : ∀ item, layer.valueOf? item = some (valueOf s item)) :
    apply {} layer = s.reloaded := by
  refine ext_valueOf fun item => ?_
  rw [valueOf_apply, gives, Option.elim_some]
  cases item with
  | allowOptional | ignoreKeys => simp [Item.accumulates, valueOf, reloaded]
  | _ => rfl

/-- Settings are loaded from a file that holds their document. -/
theorem value_ofFile {t : Tree} {p : Path} {s : Settings} {content : List Char}
    (read : t.readText p = .ok content) (holds : documentOf p content = .ok s.toValue) :
    (ofFile t p).outcome.value = .ok s.reloaded := by
  have there : t.exists? p = true := Tree.exists?_of_readText read
  have document : (contentOf t p).mapError (unusable p) >>= documentOf p = .ok s.toValue := by
    rw [contentOf, read]
    exact holds
  have usable : mappingReading fileOpening (Json.membersOf s.savedEntries) =
      .usable (Json.membersOf s.savedEntries) := by
    rw [mappingReading_eq_usable_iff, unknownKeys_savedEntries]
    refine ⟨List.forall_mem_nil _, ?_⟩
    intro field value final
    rw [finalValue?_savedEntries] at final
    exact Option.some.inj final ▸ fits_savedValue s field
  have settled := settles_layerOf fileOpening p.render (Json.membersOf s.savedEntries)
  rw [usable] at settled
  obtain ⟨layer, done, gives⟩ := settled
  have file_eq : (readFile t p).outcome.value = .ok layer := by
    rw [value_readFile there, document, ← done]
    rfl
  rw [ofFile, Attempt.value_bind, file_eq]
  exact congrArg Except.ok
    (apply_eq_reloaded fun item => (gives item).trans (givenBy_savedEntries s item))

/-! ## Saving -/

/-- The JSON text of settings is read as their document. -/
theorem documentOf_json {p : Path} (suffix : p.suffix = ".json") {s : Settings}
    (logs : s.LogsTexts) :
    documentOf p (Json.write Json.indented s.toValue).toList = .ok s.toValue := by
  obtain ⟨rest, opens⟩ :
      ∃ rest, (Json.write Json.indented s.toValue).toList = '\x7b' :: rest :=
    ⟨_, Json.textAt_object_cons 0 _ _⟩
  have shown : Text.trim (Json.write Json.indented s.toValue).toList ≠ [] := by
    rw [opens, Ne, Text.trim_eq_nil_iff]
    exact fun blank => absurd (blank '\x7b' List.mem_cons_self) (by decide)
  have back := Json.read_write (g := {}) Json.isReadable_indented (isJson_toValue logs)
  have no_yaml : ".json" ∉ yamlSuffixes := by decide
  simp [documentOf, suffix, no_yaml, shown, jsonOf, back, Except.mapError]

/-- The YAML text of settings is read as their document, where reading undoes writing. -/
theorem documentOf_yaml {p : Path} (suffix : p.suffix ∈ yamlSuffixes) {s : Settings}
    (undoes : Yaml.read s.toYaml.toList = .ok s.toValue) :
    documentOf p s.toYaml.toList = .ok s.toValue := by
  have given : s.toValue.isEmptyLike = false := rfl
  simp [documentOf, suffix, yamlOf, undoes, given, Except.mapError, bind, Except.bind, pure,
    Except.pure]

section Saving

variable {t : Tree} {p : Path} {s : Settings}

/-- Settings are written in a text that is read as their document. -/
theorem exists_textFor (logs : s.LogsTexts)
    (known : p.suffix = ".json" ∨ p.suffix ∈ yamlSuffixes)
    (undoes : p.suffix ∈ yamlSuffixes → Yaml.read s.toYaml.toList = .ok s.toValue) :
    ∃ text, textFor p.suffix s = .ok text ∧ Printed text ∧
      documentOf p text.toList = .ok s.toValue := by
  have json := isJson_toValue logs
  rcases known with suffix | suffix
  · have no_yaml : ".json" ∉ yamlSuffixes := by decide
    refine ⟨Json.write Json.indented s.toValue, ?_,
      Json.printed_writeAt (by decide) (by decide) json 0, documentOf_json suffix logs⟩
    simp [textFor, suffix, no_yaml, toJson, Json.write?_eq_ok _ json, Except.mapError]
  · refine ⟨s.toYaml, ?_, Yaml.printed_write json, documentOf_yaml suffix (undoes suffix)⟩
    simp [textFor, suffix, Json.isLong_eq_false json]

/-- Saving makes the directory and writes the text. -/
theorem save_eq_ok_iff {text : String} (written : textFor p.suffix s = .ok text) {u : Tree} :
    save t p s = .ok u ↔
      ∃ v, t.makeDirectory p.parent = .ok v ∧ v.writeText p text = .ok u := by
  rw [save, written]
  simp only [bind, Except.bind]
  cases t.makeDirectory p.parent with
  | error cause => simp [Except.mapError]
  | ok v => cases put : v.writeText p text <;> simp [Except.mapError, put]

/-- Nothing but the tree keeps a text from being saved. -/
theorem exists_cause_of_save {text : String} (written : textFor p.suffix s = .ok text)
    {fault : StoreFault} (failed : save t p s = .error fault) : ∃ cause, fault = .tree cause := by
  rw [save, written] at failed
  simp only [bind, Except.bind] at failed
  cases made : t.makeDirectory p.parent with
  | error cause =>
      rw [made] at failed
      exact ⟨cause, (Except.error.inj failed).symm⟩
  | ok v =>
      cases put : v.writeText p text with
      | error cause => exact ⟨cause, by simpa [made, put, Except.mapError, eq_comm] using failed⟩
      | ok u => simp [made, put, Except.mapError] at failed

theorem parts_ne_nil (suffixed : p.suffix ≠ "") : p.parts ≠ [] := by
  intro none
  exact suffixed (by rw [Path.suffix, Path.name, none]; rfl)

/-- How settings come back from a file. -/
structure ComesBack (t : Tree) (p : Path) (s : Settings) : Prop where
  /-- Nothing but the tree keeps settings from being saved. -/
  refuses : ∀ fault, save t p s = .error fault → ∃ cause, fault = .tree cause
  /-- Settings are saved where a file can stand. -/
  saves : ∀ place, t.locate p = .ok place → t.at? place ≠ some .directory →
    ∃ u, save t p s = .ok u
  /-- Saved settings are loaded with the accumulated lists. -/
  loads : ∀ u, save t p s = .ok u → (ofFile u p).outcome.value = .ok s.reloaded
  /-- They are the same settings if the lists are as accumulating leaves them. -/
  same_iff : ∀ u, save t p s = .ok u →
    ((ofFile u p).outcome.value = .ok s ↔
      s.ignoreKeys.head? = some "NODE_ENV" ∧ s.ignoreKeys.Nodup ∧ s.allowOptional.Nodup)

theorem reloaded_eq_self_iff (s : Settings) :
    s.reloaded = s ↔
      s.ignoreKeys.head? = some "NODE_ENV" ∧ s.ignoreKeys.Nodup ∧ s.allowOptional.Nodup := by
  have lists_iff : s.reloaded = s ↔
      s.allowOptional.eraseDups = s.allowOptional ∧
        ("NODE_ENV" :: s.ignoreKeys).eraseDups = s.ignoreKeys := by
    obtain ⟨paths, envFiles, allowOptional, ignoreKeys, ignorePatterns, reportFormat, exitOnError,
      includeOptional, logging⟩ := s
    simp [reloaded]
  rw [lists_iff, Collection.eraseDups_eq_self_iff, Collection.eraseDups_cons_eq_iff]
  tauto

/-- Settings whose members of logging are texts come back from a JSON file, and from a YAML file
where reading undoes writing. -/
theorem save_comesBack (t : Tree) (logs : s.LogsTexts)
    (known : p.suffix = ".json" ∨ p.suffix ∈ yamlSuffixes)
    (undoes : p.suffix ∈ yamlSuffixes → Yaml.read s.toYaml.toList = .ok s.toValue) :
    ComesBack t p s := by
  obtain ⟨text, written, printed, holds⟩ := exists_textFor logs known undoes
  have loads : ∀ u, save t p s = .ok u → (ofFile u p).outcome.value = .ok s.reloaded := by
    intro u saved
    obtain ⟨v, -, put⟩ := (save_eq_ok_iff written).1 saved
    exact value_ofFile (Tree.readText_of_writeText put printed.cr_not_mem) holds
  refine ⟨fun fault => exists_cause_of_save written, ?_, loads, fun u saved => ?_⟩
  · intro place located free
    have named : p.parts ≠ [] := by
      apply parts_ne_nil
      rcases known with suffix | suffix
      · simp [suffix]
      · exact ne_of_mem_of_not_mem suffix (by decide)
    have made := Tree.makeDirectory_parent located named
    exact ⟨_, (save_eq_ok_iff written).2
      ⟨t, made, Tree.writeText_eq_ok_iff.2 ⟨place, located, free, rfl⟩⟩⟩
  · rw [loads u saved, Except.ok.injEq]
    exact reloaded_eq_self_iff s

end Saving

/-- Settings with repeats in both lists that accumulate, and with a letter that is escaped. -/
def repeating : Settings :=
  { allowOptional := ["é", "B", "é"], ignoreKeys := ["A", "NODE_ENV", "A"] }

/-- The same two lists beside empty ones, and a text that YAML quotes. -/
def sparse : Settings :=
  { repeating with
    paths := [], envFiles := [], ignorePatterns := []
    logging := { level := .text "INFO", format := .text "%(message)s" } }

/-- Reading undoes writing for these settings. -/
theorem read_toYaml_sparse : Yaml.read sparse.toYaml.toList = .ok sparse.toValue := by
  decide +kernel

/-- Saved settings lose their repeats, and the default key comes first, in both formats. -/
theorem save_comesBack_repeating :
    (repeating.LogsTexts ∧ ComesBack {} { parts := [".envguardrc.json"] } repeating ∧
      ∃ u, save {} { parts := [".envguardrc.json"] } repeating = .ok u ∧
        (ofFile u { parts := [".envguardrc.json"] }).outcome.value =
          .ok { repeating with allowOptional := ["é", "B"], ignoreKeys := ["NODE_ENV", "A"] } ∧
        (ofFile u { parts := [".envguardrc.json"] }).outcome.value ≠ .ok repeating) ∧
    sparse.LogsTexts ∧ Yaml.read sparse.toYaml.toList = .ok sparse.toValue ∧
      ComesBack {} { parts := [".envguard.yaml"] } sparse ∧
      ∃ u, save {} { parts := [".envguard.yaml"] } sparse = .ok u ∧
        (ofFile u { parts := [".envguard.yaml"] }).outcome.value =
          .ok { sparse with allowOptional := ["é", "B"], ignoreKeys := ["NODE_ENV", "A"] } := by
  constructor
  · have logs : repeating.LogsTexts := ⟨rfl, rfl⟩
    have back : ComesBack {} { parts := [".envguardrc.json"] } repeating :=
      save_comesBack {} logs (.inl (by decide)) fun yaml => absurd yaml (by decide)
    obtain ⟨u, saved⟩ := back.saves [".envguardrc.json"] rfl (by decide)
    refine ⟨logs, back, u, saved, back.loads u saved, fun same => ?_⟩
    exact absurd ((back.same_iff u saved).1 same).1 (by decide)
  · have logs : sparse.LogsTexts := ⟨rfl, rfl⟩
    have back : ComesBack {} { parts := [".envguard.yaml"] } sparse :=
      save_comesBack {} logs (.inr (by decide)) fun _ => read_toYaml_sparse
    obtain ⟨u, saved⟩ := back.saves [".envguard.yaml"] rfl (by decide)
    exact ⟨logs, read_toYaml_sparse, back, u, saved, back.loads u saved⟩

end EnvConcord.Settings

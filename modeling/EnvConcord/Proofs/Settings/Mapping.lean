import EnvConcord.Proofs.Collection.Dict
import EnvConcord.Proofs.Collection.Distinct
import EnvConcord.Proofs.Settings.Order
import EnvConcord.Settings.Source
import Mathlib.Data.List.Induction

/-!
# What a mapping gives

A mapping gives a setting the value under the last key that spells its name.  It is taken as a
whole or not at all: one value of a wrong shape spoils it.
-/

namespace EnvConcord.Settings

open Document

/-- The entries of a mapping in a document. -/
abbrev Mapping := List (Value × Value)

/-- What settings consist of; the members of logging count one by one. -/
inductive Item
  | paths
  | envFiles
  | allowOptional
  | ignoreKeys
  | ignorePatterns
  | reportFormat
  | exitOnError
  | includeOptional
  | logLevel
  | logFormat
  deriving DecidableEq, Repr

/-- The setting that an item belongs to. -/
def Item.field : Item → Field
  | .paths => .paths
  | .envFiles => .envFiles
  | .allowOptional => .allowOptional
  | .ignoreKeys => .ignoreKeys
  | .ignorePatterns => .ignorePatterns
  | .reportFormat => .reportFormat
  | .exitOnError => .exitOnError
  | .includeOptional => .includeOptional
  | .logLevel => .logging
  | .logFormat => .logging

/-- The part of a setting's value that belongs to an item, if the value has such a part. -/
def Item.part? : Item → Value → Option Value
  | .logLevel, .map members => Value.lookupText members "level"
  | .logLevel, _ => none
  | .logFormat, .map members => Value.lookupText members "format"
  | .logFormat, _ => none
  | _, value => some value

/-- The value of an item in settings. -/
def valueOf (s : Settings) : Item → Value
  | .paths => Value.texts s.paths
  | .envFiles => Value.texts s.envFiles
  | .allowOptional => Value.texts s.allowOptional
  | .ignoreKeys => Value.texts s.ignoreKeys
  | .ignorePatterns => Value.texts s.ignorePatterns
  | .reportFormat => .text s.reportFormat
  | .exitOnError => .bool s.exitOnError
  | .includeOptional => .bool s.includeOptional
  | .logLevel => s.logging.level
  | .logFormat => s.logging.format

/-- The value of an item in a layer, if the layer gives one. -/
def Override.valueOf? (o : Override) : Item → Option Value
  | .paths => o.paths.map Value.texts
  | .envFiles => o.envFiles.map Value.texts
  | .allowOptional => o.allowOptional.map Value.texts
  | .ignoreKeys => o.ignoreKeys.map Value.texts
  | .ignorePatterns => o.ignorePatterns.map Value.texts
  | .reportFormat => o.reportFormat.map .text
  | .exitOnError => o.exitOnError.map .bool
  | .includeOptional => o.includeOptional.map .bool
  | .logLevel => o.logging.bind LogOverride.level
  | .logFormat => o.logging.bind LogOverride.format

/-! ## Shapes -/

/-- Whether a value is null. -/
def isNull : Value → Bool
  | .null => true
  | _ => false

/-- Whether a value is a text. -/
def isText : Value → Bool
  | .text _ => true
  | _ => false

/-- Whether a value is a flag. -/
def isFlag : Value → Bool
  | .bool _ => true
  | _ => false

/-- The keys of a mapping that are no members of logging. -/
def unknownMembers (members : Mapping) : List Value :=
  (members.map Prod.fst).filter fun key =>
    match key with
    | .text s => s != "level" && s != "format"
    | _ => true

/-- Whether a value has the shape that a setting expects. -/
def Field.accepts (field : Field) (value : Value) : Bool :=
  match field with
  | .paths | .envFiles | .allowOptional | .ignoreKeys | .ignorePatterns => (textItems? value).isSome
  | .reportFormat => isText value
  | .exitOnError | .includeOptional => isFlag value
  | .logging =>
      match value with
      | .map members => (unknownMembers members).isEmpty
      | _ => false

/-- Whether a value can stand under a setting's name: null gives nothing. -/
def Field.fits (field : Field) (value : Value) : Bool := isNull value || field.accepts value

/-- Whether a value is a mapping for logging whose unknown keys cannot be listed. -/
def Field.isUnlistable (field : Field) (value : Value) : Bool :=
  match field, value with
  | .logging, .map members => !decide (CanList (unknownMembers members))
  | _, _ => false

/-! ## What stands under the names of settings -/

/-- Whether a key spells the name of a setting, in one of its two ways. -/
def Field.isSpelledBy (field : Field) : Value → Bool
  | .text name => field.name == name || field.alias? == some name
  | _ => false

/-- The setting whose name a key spells. -/
def spelledField? (key : Value) : Option Field := Field.all.find? fun field => field.isSpelledBy key

/-- The value that counts for a setting: the one under the last key that spells its name. -/
def finalValue? (entries : Mapping) (field : Field) : Option Value :=
  (entries.filter fun entry => field.isSpelledBy entry.1).getLast?.map Prod.snd

/-- What a mapping gives an item; null gives nothing, but a null member of logging is given. -/
def givenBy (entries : Mapping) (item : Item) : Option Value :=
  ((finalValue? entries item.field).filter fun value => !isNull value).bind item.part?

/-- The keys of a mapping that name no setting. -/
def unknownKeys (entries : Mapping) : List Value :=
  (entries.map Prod.fst).filter fun key => (spelledField? key).isNone

/-- The settings that a mapping names, in the order in which it first names them. -/
def fieldsIn (entries : Mapping) : List Field :=
  (entries.filterMap fun entry => spelledField? entry.1).eraseDups

/-- The first setting whose value does not fit, with that value. -/
def misfit? (entries : Mapping) : Option (Field × Value) :=
  ((fieldsIn entries).filterMap fun field => (finalValue? entries field).map (Prod.mk field)).find?
    fun given => !given.1.fits given.2

/-! ## Lists of texts -/

/-- The text that a value is. -/
def text? : Value → Option String
  | .text s => some s
  | _ => none

theorem mapM_text?_eq_some_iff {values : List Value} {items : List String} :
    values.mapM text? = some items ↔ values = items.map .text := by
  induction values generalizing items with
  | nil => cases items <;> simp
  | cons first rest ih =>
      rw [List.mapM_cons]
      cases own : text? first with
      | none => cases items <;> cases first <;> simp_all [text?]
      | some s =>
          obtain rfl : first = .text s := by cases first <;> simp_all [text?]
          cases later : rest.mapM text? with
          | none => cases items <;> simp [← ih, later]
          | some texts => cases items <;> simp [← ih, later]

theorem textItems?_eq_some_iff {value : Value} {items : List String} :
    textItems? value = some items ↔ value = Value.texts items := by
  cases value with
  | list values =>
      rw [Value.texts, Value.list.injEq, ← mapM_text?_eq_some_iff]
      rfl
  | _ => simp [textItems?, Value.texts]

theorem texts_injective {items more : List String}
    (same : Value.texts items = Value.texts more) : items = more := by
  have read := congrArg textItems? same
  simpa [textItems?_eq_some_iff.2 rfl] using read

/-- Settings with the same items are the same. -/
theorem ext_valueOf {s u : Settings} (same : ∀ item, valueOf s item = valueOf u item) : s = u := by
  obtain ⟨paths, envFiles, allowOptional, ignoreKeys, ignorePatterns, reportFormat, exitOnError,
    includeOptional, level, format⟩ := s
  obtain rfl : paths = _ := texts_injective (same .paths)
  obtain rfl : envFiles = _ := texts_injective (same .envFiles)
  obtain rfl : allowOptional = _ := texts_injective (same .allowOptional)
  obtain rfl : ignoreKeys = _ := texts_injective (same .ignoreKeys)
  obtain rfl : ignorePatterns = _ := texts_injective (same .ignorePatterns)
  obtain rfl : reportFormat = _ := Value.text.inj (same .reportFormat)
  obtain rfl : exitOnError = _ := Value.bool.inj (same .exitOnError)
  obtain rfl : includeOptional = _ := Value.bool.inj (same .includeOptional)
  obtain rfl : level = _ := same .logLevel
  obtain rfl : format = _ := same .logFormat
  rfl

/-! ## Adding one value to a layer -/

section Reading

variable (field : Field) (source : String) (value : Value)

theorem readTexts_cases :
    (∃ items, value = Value.texts items ∧ readTexts field source value = .ok items) ∨
      ((textItems? value).isSome = false ∧
        readTexts field source value = .error (.shape field source "a list of strings")) := by
  cases read : textItems? value with
  | some items => exact Or.inl ⟨items, textItems?_eq_some_iff.1 read, by rw [readTexts, read]⟩
  | none => exact Or.inr ⟨rfl, by rw [readTexts, read]⟩

theorem readFlag_cases :
    (∃ flag, value = .bool flag) ∨
      (isFlag value = false ∧
        readFlag field source value = .error (.shape field source "a boolean")) := by
  cases value with
  | bool flag => exact Or.inl ⟨flag, rfl⟩
  | _ => exact Or.inr ⟨rfl, rfl⟩

theorem readLogging_cases :
    (∃ members, value = .map members ∧ Field.logging.accepts value = true ∧
        readLogging source value =
          .ok { level := Value.lookupText members "level"
                format := Value.lookupText members "format" }) ∨
      (Field.logging.accepts value = false ∧ ∃ fault, readLogging source value = .error fault ∧
        (LoadFault.settings fault).isSkippable = !Field.logging.isUnlistable value) := by
  cases value with
  | map members =>
      have read_eq : readLogging source (.map members) =
          if (unknownMembers members).isEmpty then
            .ok { level := Value.lookupText members "level"
                  format := Value.lookupText members "format" }
          else
            (sortKeys (unknownMembers members)).bind fun sorted =>
              (sorted.mapM keyText).bind fun texts => .error (.unknownLogging source texts) :=
        rfl
      rw [read_eq, Field.accepts]
      cases known : (unknownMembers members).isEmpty with
      | true => exact Or.inl ⟨members, rfl, rfl, rfl⟩
      | false =>
          right
          rcases sortKeys_cases (unknownMembers members) with
            ⟨sortable, sorted, done, perm⟩ | ⟨apart, first, second, failed⟩
          · rcases mapM_keyText_cases sorted with ⟨short, shown⟩ | ⟨⟨key, mem, long⟩, cause, failed⟩
            · have listable : CanList (unknownMembers members) :=
                ⟨sortable, fun key mem => short key (perm.mem_iff.2 mem)⟩
              refine ⟨rfl, _, by rw [done, Except.bind, shown]; rfl, ?_⟩
              simp [Field.isUnlistable, listable, LoadFault.isSkippable]
            · have unlistable : ¬CanList (unknownMembers members) := fun listable => by
                simpa [long] using listable.2 key (perm.mem_iff.1 mem)
              refine ⟨rfl, _, by rw [done, Except.bind, failed]; rfl, ?_⟩
              simp [Field.isUnlistable, unlistable, LoadFault.isSkippable]
          · have unlistable : ¬CanList (unknownMembers members) := fun listable =>
              apart listable.1
            refine ⟨rfl, _, by rw [failed]; rfl, ?_⟩
            simp [Field.isUnlistable, unlistable, LoadFault.isSkippable]
  | _ => exact Or.inr ⟨rfl, _, rfl, rfl⟩

end Reading

section Adding

variable {source : String} {o : Override} {field : Field} {value : Value}

/-- A value that is not null is read by its setting. -/
theorem Override.add_of_not_null (given : isNull value = false) :
    o.add source field value =
      match field with
      | .paths => (readTexts field source value).map fun items => { o with paths := some items }
      | .envFiles =>
          (readTexts field source value).map fun items => { o with envFiles := some items }
      | .allowOptional =>
          (readTexts field source value).map fun items => { o with allowOptional := some items }
      | .ignoreKeys =>
          (readTexts field source value).map fun items => { o with ignoreKeys := some items }
      | .ignorePatterns =>
          (readTexts field source value).map fun items => { o with ignorePatterns := some items }
      | .reportFormat =>
          match value with
          | .text s => .ok { o with reportFormat := some s }
          | _ => .error (.shape field source "a string")
      | .exitOnError =>
          (readFlag field source value).map fun flag => { o with exitOnError := some flag }
      | .includeOptional =>
          (readFlag field source value).map fun flag => { o with includeOptional := some flag }
      | .logging =>
          (readLogging source value).map fun members => { o with logging := some members } := by
  cases value with
  | null => contradiction
  | _ => cases field <;> rfl

/-- A value that fits sets the items of its setting, and any other value is a fault. -/
theorem Override.add_cases (source : String) (o : Override) (field : Field) (value : Value) :
    (field.fits value = true ∧ ∃ added, o.add source field value = .ok added ∧
        ∀ item, added.valueOf? item =
          if item.field = field ∧ isNull value = false then item.part? value
          else o.valueOf? item) ∨
      (field.fits value = false ∧ ∃ fault, o.add source field value = .error fault ∧
        (LoadFault.settings fault).isSkippable = !field.isUnlistable value) := by
  cases given : isNull value with
  | true =>
      obtain rfl : value = .null := by cases value <;> simp_all [isNull]
      exact Or.inl ⟨rfl, o, rfl, by simp⟩
  | false =>
      rw [add_of_not_null given, Field.fits, given, Bool.false_or]
      cases field with
      | logging =>
          rcases readLogging_cases source value with
            ⟨members, rfl, fits, read⟩ | ⟨misfit, fault, failed, skippable⟩
          · refine Or.inl ⟨fits, _, by rw [read]; rfl, ?_⟩
            intro item
            cases item <;> rfl
          · exact Or.inr ⟨misfit, fault, by rw [failed]; rfl, skippable⟩
      | reportFormat =>
          cases value with
          | text s =>
              refine Or.inl ⟨rfl, _, rfl, ?_⟩
              intro item
              cases item <;> rfl
          | _ => exact Or.inr ⟨rfl, _, rfl, rfl⟩
      | exitOnError | includeOptional =>
          rcases readFlag_cases _ source value with ⟨flag, rfl⟩ | ⟨misfit, failed⟩
          · refine Or.inl ⟨rfl, _, rfl, ?_⟩
            intro item
            cases item <;> rfl
          · exact Or.inr ⟨misfit, _, by rw [failed]; rfl, rfl⟩
      | _ =>
          rcases readTexts_cases _ source value with ⟨items, rfl, read⟩ | ⟨misfit, failed⟩
          · have fits : (textItems? (Value.texts items)).isSome = true := by
              rw [textItems?_eq_some_iff.2 rfl, Option.isSome_some]
            refine Or.inl ⟨fits, _, by rw [read]; rfl, ?_⟩
            intro item
            cases item <;> rfl
          · exact Or.inr ⟨misfit, _, by rw [failed]; rfl, rfl⟩

end Adding

/-! ## Adding values one after another -/

section Given

variable {source : String} {given : List (Field × Value)}

/-- Values of distinct settings that all fit set the items of their settings. -/
theorem foldlM_add_of_fits (o : Override) (distinct : (given.map Prod.fst).Nodup)
    (fits : ∀ entry ∈ given, entry.1.fits entry.2 = true) :
    ∃ layer, given.foldlM (fun o entry => o.add source entry.1 entry.2) o = .ok layer ∧
      ∀ item, layer.valueOf? item =
        ((given.lookup item.field).filter fun value => !isNull value).elim (o.valueOf? item)
          item.part? := by
  induction given generalizing o with
  | nil => exact ⟨o, rfl, fun _ => rfl⟩
  | cons entry rest ih =>
      obtain ⟨field, value⟩ := entry
      rw [List.map_cons, List.nodup_cons] at distinct
      rw [List.forall_mem_cons] at fits
      rcases Override.add_cases source o field value with
        ⟨-, added, done, added_eq⟩ | ⟨misfit, -⟩
      · obtain ⟨layer, run, layer_eq⟩ := ih added distinct.2 fits.2
        refine ⟨layer, by rw [List.foldlM_cons, done]; exact run, ?_⟩
        intro item
        rw [layer_eq, added_eq, List.lookup_cons]
        -- The settings are distinct, so what is set here is not set again.
        by_cases own : item.field = field
        · have absent : rest.lookup field = none := by
            rw [List.lookup_eq_none_iff]
            intro other mem
            have key_mem : other.1 ∈ rest.map Prod.fst := List.mem_map_of_mem mem
            simpa using (ne_of_mem_of_not_mem key_mem distinct.1).symm
          cases null : isNull value <;> simp [own, absent, null, Option.filter]
        · have apart : (item.field == field) = false := by simpa using own
          simp [own, apart]
      · rw [fits.1] at misfit
        contradiction

/-- Adding stops at the first value that does not fit. -/
theorem foldlM_add_of_misfit (o : Override) {field : Field} {value : Value}
    (found : (given.find? fun entry => !entry.1.fits entry.2) = some (field, value)) :
    ∃ fault, given.foldlM (fun o entry => o.add source entry.1 entry.2) o = .error fault ∧
      (LoadFault.settings fault).isSkippable = !field.isUnlistable value := by
  induction given generalizing o with
  | nil => simp at found
  | cons entry rest ih =>
      rw [List.foldlM_cons]
      rcases Override.add_cases source o entry.1 entry.2 with
        ⟨fits, added, done, -⟩ | ⟨misfit, fault, failed, skippable⟩
      · rw [List.find?_cons_of_neg (by simp [fits])] at found
        rw [done]
        exact ih added found
      · rw [List.find?_cons_of_pos (by simp [misfit])] at found
        obtain rfl := Option.some.inj found
        exact ⟨fault, by rw [failed]; rfl, skippable⟩

end Given

/-- A dictionary of values that all fit is a layer of what they give each item. -/
theorem exists_ofFields (source : String) {given : Dict Field Value}
    (fits : ∀ entry ∈ given.toList, entry.1.fits entry.2 = true) :
    ∃ layer, Override.ofFields source given.toList = .ok layer ∧
      ∀ item, layer.valueOf? item =
        ((given.get? item.field).filter fun value => !isNull value).bind item.part? := by
  obtain ⟨layer, run, layer_eq⟩ := foldlM_add_of_fits {} given.nodup fits
  refine ⟨layer, run, ?_⟩
  intro item
  have nothing : ({} : Override).valueOf? item = none := by cases item <;> rfl
  rw [layer_eq, nothing, Dict.get?]
  cases (given.toList.lookup item.field).filter fun value => !isNull value <;> rfl

/-! ## The settings of a mapping -/

/-- No key spells the names of two settings. -/
theorem spelledField?_eq_some_iff {key : Value} {field : Field} :
    spelledField? key = some field ↔ field.isSpelledBy key = true := by
  constructor
  · intro found
    simpa using List.find?_some found
  · intro spelled
    cases key with
    | text name =>
        simp only [Field.isSpelledBy, Bool.or_eq_true, beq_iff_eq] at spelled
        rcases spelled with rfl | second
        · cases field <;> rfl
        · cases field <;> simp only [Field.alias?, Option.some.injEq, reduceCtorEq] at second <;>
            subst second <;> rfl
    | _ => contradiction

theorem splitKnown_append (entries : Mapping) (entry : Value × Value) :
    splitKnown (entries ++ [entry]) =
      match spelledField? entry.1 with
      | some field => ((splitKnown entries).1.insert field entry.2, (splitKnown entries).2)
      | none => ((splitKnown entries).1, (splitKnown entries).2 ++ [entry.1]) := by
  obtain ⟨key, value⟩ := entry
  rw [splitKnown, List.foldl_append]
  cases key with
  | text name =>
      have spelled_eq : Field.ofSpelling? name = spelledField? (.text name) := rfl
      cases found : spelledField? (.text name) <;>
        simp [spelled_eq, found, splitKnown]
  | _ => rfl

/-- What is left over is what names no setting. -/
theorem splitKnown_snd (entries : Mapping) : (splitKnown entries).2 = unknownKeys entries := by
  induction entries using List.reverseRecOn with
  | nil => rfl
  | append_singleton entries entry ih =>
      rw [splitKnown_append, unknownKeys, List.map_append, List.filter_append]
      cases found : spelledField? entry.1 <;> simp [found, ih, unknownKeys]

theorem finalValue?_append (entries : Mapping) (entry : Value × Value) (field : Field) :
    finalValue? (entries ++ [entry]) field =
      if spelledField? entry.1 = some field then some entry.2 else finalValue? entries field := by
  rw [finalValue?, List.filter_append]
  cases spelled : field.isSpelledBy entry.1 <;>
    simp [spelledField?_eq_some_iff, spelled, finalValue?]

theorem fieldsIn_append (entries : Mapping) (entry : Value × Value) :
    fieldsIn (entries ++ [entry]) =
      match spelledField? entry.1 with
      | some field =>
          if field ∈ fieldsIn entries then fieldsIn entries else fieldsIn entries ++ [field]
      | none => fieldsIn entries := by
  rw [fieldsIn, List.filterMap_append]
  cases found : spelledField? entry.1 with
  | none => simp [found, fieldsIn]
  | some field =>
      have mem_iff : field ∈ fieldsIn entries ↔
          field ∈ entries.filterMap fun entry => spelledField? entry.1 := List.mem_eraseDups
      simp only [mem_iff]
      simp [found, fieldsIn, Collection.eraseDups_append_singleton]

theorem get?_splitKnown (entries : Mapping) (field : Field) :
    (splitKnown entries).1.get? field = finalValue? entries field := by
  induction entries using List.reverseRecOn with
  | nil => rfl
  | append_singleton entries entry ih =>
      rw [splitKnown_append, finalValue?_append, ← ih]
      cases found : spelledField? entry.1 with
      | none => simp
      | some own =>
          rw [Dict.get?_insert]
          simp [eq_comm]

theorem keys_splitKnown (entries : Mapping) : (splitKnown entries).1.keys = fieldsIn entries := by
  induction entries using List.reverseRecOn with
  | nil => rfl
  | append_singleton entries entry ih =>
      rw [splitKnown_append, fieldsIn_append, ← ih]
      cases found : spelledField? entry.1 with
      | none => rfl
      | some own => exact Dict.keys_insert ..

/-- What is known after a mapping was gone through: the final values in the order of the
settings. -/
theorem toList_splitKnown (entries : Mapping) :
    (splitKnown entries).1.toList =
      (fieldsIn entries).filterMap fun field =>
        (finalValue? entries field).map (Prod.mk field) := by
  simp only [← get?_splitKnown, ← keys_splitKnown]
  exact Dict.toList_eq_filterMap_keys _

theorem misfit?_eq (entries : Mapping) :
    misfit? entries =
      (splitKnown entries).1.toList.find? fun given => !given.1.fits given.2 := by
  rw [misfit?, toList_splitKnown]

/-- Nothing is out of shape exactly if all final values fit. -/
theorem misfit?_eq_none_iff {entries : Mapping} :
    misfit? entries = none ↔
      ∀ field value, finalValue? entries field = some value → field.fits value = true := by
  rw [misfit?_eq, List.find?_eq_none]
  simp only [Bool.not_eq_true', Bool.not_eq_false, ← get?_splitKnown, Dict.get?_eq_some_iff,
    Prod.forall]

/-- A mapping without a misfit gives a layer with what it gives each item, and a misfit is a
fault. -/
theorem ofFields_splitKnown (source : String) (entries : Mapping) :
    match misfit? entries with
    | none => ∃ layer, Override.ofFields source (splitKnown entries).1.toList = .ok layer ∧
        ∀ item, layer.valueOf? item = givenBy entries item
    | some (field, value) =>
        ∃ fault, Override.ofFields source (splitKnown entries).1.toList = .error fault ∧
          (LoadFault.settings fault).isSkippable = !field.isUnlistable value := by
  cases found : misfit? entries with
  | some given => exact foldlM_add_of_misfit {} ((misfit?_eq entries).symm.trans found)
  | none =>
      have fits : ∀ given ∈ (splitKnown entries).1.toList, given.1.fits given.2 = true := by
        simpa [misfit?_eq] using found
      obtain ⟨layer, run, layer_eq⟩ := exists_ofFields source fits
      refine ⟨layer, run, ?_⟩
      intro item
      rw [layer_eq, get?_splitKnown]
      rfl

end EnvConcord.Settings

import EnvConcord.Proofs.Settings.Mapping

/-!
# The sources of settings

Settings come from a settings file and from the sections of two other files.  Each of these
sources is absent, usable, or skipped with a warning, or else it stops loading: a value that its
format cannot hold, a list of tools that is no table, and unknown keys that cannot be shown or
listed are faults that no source is skipped for.
-/

namespace EnvConcord.Settings

open Document

/-- What a source of settings amounts to. -/
inductive Reading
  | absent
  /-- The source is passed over, with a warning that begins in a certain way. -/
  | skipped (opening : String)
  /-- The source stops loading altogether. -/
  | fatal
  | usable (entries : Mapping)

/-- The mapping of a usable source. -/
def Reading.mapping? : Reading → Option Mapping
  | .usable entries => some entries
  | _ => none

/-- A fault either is warned about or stops loading. -/
def faultReading (opening : String) (isHarmless : Bool) : Reading :=
  if isHarmless then .skipped opening else .fatal

/-- A mapping is usable if its unknown keys can be shown and all its values fit. -/
def mappingReading (opening : String) (entries : Mapping) : Reading :=
  if (unknownKeys entries).any Value.isLong then .fatal
  else
    match misfit? entries with
    | none => .usable entries
    | some (field, value) => faultReading opening !field.isUnlistable value

/-- How the warning begins that a settings file is passed over with. -/
def fileOpening : String := "Skipping config file: "

/-- How the warning begins that a section is passed over with. -/
def sectionOpening : String := "Skipping envguard section: "

/-- How the warning begins that a file is passed over with that may have a section. -/
def parseOpening : String := "Failed to parse "

theorem faultReading_ne_usable (opening : String) (isHarmless : Bool) (entries : Mapping) :
    faultReading opening isHarmless ≠ .usable entries := by
  cases isHarmless <;> simp [faultReading]

/-- A mapping is usable exactly if its unknown keys can be shown and the final values of all its
settings fit. -/
theorem mappingReading_eq_usable_iff (opening : String) (entries : Mapping) :
    mappingReading opening entries = .usable entries ↔
      (∀ key ∈ unknownKeys entries, key.isLong = false) ∧
        ∀ field value, finalValue? entries field = some value → field.fits value = true := by
  have short_iff : (unknownKeys entries).any Value.isLong = false ↔
      ∀ key ∈ unknownKeys entries, key.isLong = false := by simp
  rw [← misfit?_eq_none_iff, mappingReading, ← short_iff]
  cases (unknownKeys entries).any Value.isLong with
  | true => simp
  | false => cases misfit? entries <;> simp [faultReading_ne_usable]

/-- A mapping stops loading exactly if one of its unknown keys cannot be shown, or if its first
misfit are logging members with unknown keys that cannot be listed. -/
theorem mappingReading_eq_fatal_iff (opening : String) (entries : Mapping) :
    mappingReading opening entries = .fatal ↔
      (∃ key ∈ unknownKeys entries, key.isLong = true) ∨
        ∃ members, misfit? entries = some (.logging, .map members) ∧
          ¬CanList (unknownMembers members) := by
  rw [← List.any_eq_true, mappingReading]
  cases (unknownKeys entries).any Value.isLong with
  | true => simp
  | false =>
      cases misfit? entries with
      | none => simp
      | some given =>
          obtain ⟨field, value⟩ := given
          cases field <;> cases value <;> simp [faultReading, Field.isUnlistable]

/-- A settings file has to be there and to hold a mapping. -/
def fileReading (t : Tree) (p : Path) : Reading :=
  if t.exists? p then
    match (contentOf t p).mapError (unusable p) >>= documentOf p with
    | .ok (.map entries) => mappingReading fileOpening entries
    | .ok _ => .skipped fileOpening
    | .error fault => faultReading fileOpening fault.isSkippable
  else .skipped fileOpening

/-- The settings file is the one that is given, or the first one that is there. -/
def ownReading (t : Tree) (given : Option Path) (directory : Path) : Reading :=
  match given with
  | some p => fileReading t p
  | none =>
      match (fileNames.map (inDirectory directory)).find? t.exists? with
      | some p => fileReading t p
      | none => .absent

/-- What is no mapping is no section. -/
def sectionReading : Option Value → Reading
  | some (.map entries) => mappingReading sectionOpening entries
  | _ => .absent

/-- A file that may have a section; the document in it is read by `reading`. -/
def holderReading (t : Tree) (p : Path) (parse : List Char → Except SourceFault Value)
    (reading : Value → Reading) : Reading :=
  if t.exists? p then
    match (contentOf t p).bind parse with
    | .ok document => reading document
    | .error fault => faultReading parseOpening !fault.concernsValue
  else .absent

/-- The section of a document with a table of tools. -/
def toolReading (document : Value) : Reading :=
  match document.get? "tool" with
  | none => .absent
  | some (.map tools) => sectionReading (Value.lookupText tools sectionName)
  | some _ => .fatal

/-- The section of a document with members. -/
def memberReading (document : Value) : Reading := sectionReading (document.get? sectionName)

/-- The section among the tools of a project. -/
def pyprojectReading (t : Tree) (directory : Path) : Reading :=
  holderReading t (inDirectory directory "pyproject.toml") tomlOf toolReading

/-- The section of a package. -/
def packageReading (t : Tree) (directory : Path) : Reading :=
  holderReading t (inDirectory directory "package.json") jsonOf memberReading

/-- The sources of settings, the later ones on top. -/
def readings (t : Tree) (given : Option Path) (directory : Path) : List Reading :=
  [ownReading t given directory, pyprojectReading t directory, packageReading t directory]

/-- The mappings that settings are taken from. -/
def sources (t : Tree) (given : Option Path) (directory : Path) : List Mapping :=
  (readings t given directory).filterMap Reading.mapping?

/-! ## Layers of readings -/

/-- Whether a layer holds what a mapping gives. -/
def Override.Holds (layer : Override) (entries : Mapping) : Prop :=
  ∀ item, layer.valueOf? item = givenBy entries item

/-- Whether an attempt to read a layer ends as a reading says; a source that can be skipped
ends in a fault. -/
def Reading.Settles (reading : Reading) (opening : String) (result : Except LoadFault Override) :
    Prop :=
  match reading with
  | .absent => False
  | .skipped own => own = opening ∧ ∃ fault, result = .error fault ∧ fault.isSkippable = true
  | .fatal => ∃ fault, result = .error fault ∧ fault.isSkippable = false
  | .usable entries => ∃ layer, result = .ok layer ∧ layer.Holds entries

/-- Whether a stage of loading ends as a reading says: with a layer, without one after a
warning, or with a fault. -/
def Reading.Stages (reading : Reading) (outcome : Logged (Except LoadFault (Option Override))) :
    Prop :=
  match reading with
  | .absent => outcome.value = .ok none
  | .skipped opening => outcome.value = .ok none ∧ ∃ rest, opening ++ rest ∈ outcome.log
  | .fatal => ∃ fault, outcome.value = .error fault ∧ fault.isSkippable = false
  | .usable entries => ∃ layer, outcome.value = .ok (some layer) ∧ layer.Holds entries

theorem settles_faultReading (opening : String) (fault : LoadFault) :
    (faultReading opening fault.isSkippable).Settles opening (.error fault) := by
  cases skippable : fault.isSkippable with
  | true => exact ⟨rfl, fault, rfl, skippable⟩
  | false => exact ⟨fault, rfl, skippable⟩

/-- The warnings about unknown keys stop at a key that cannot be shown. -/
theorem warnUnknown_cases (source : String) (keys : List Value) :
    (keys.any Value.isLong = false ∧ (warnUnknown source keys).outcome.value = .ok ()) ∨
      (keys.any Value.isLong = true ∧ ∃ fault,
        (warnUnknown source keys).outcome.value = .error fault ∧ fault.isSkippable = false) := by
  induction keys with
  | nil => exact Or.inl ⟨rfl, rfl⟩
  | cons key rest ih =>
      rw [List.any_cons, warnUnknown, Attempt.value_bind, Attempt.value_ofExcept]
      rcases keyText_cases key with ⟨short, shown⟩ | ⟨long, cause, failed⟩
      · rw [short, shown, Bool.false_or]
        exact ih
      · exact Or.inr ⟨by rw [long, Bool.true_or], _, by rw [failed]; rfl, rfl⟩

theorem settles_layerOf (opening source : String) (entries : Mapping) :
    (mappingReading opening entries).Settles opening (layerOf source entries).outcome.value := by
  have value_eq : (layerOf source entries).outcome.value =
      (warnUnknown source (unknownKeys entries)).outcome.value.bind fun _ =>
        (Override.ofFields source (splitKnown entries).1.toList).mapError .settings := by
    rw [layerOf, Attempt.value_bind, splitKnown_snd]
    rfl
  have read := ofFields_splitKnown source entries
  rw [value_eq, mappingReading]
  rcases warnUnknown_cases source (unknownKeys entries) with
    ⟨short, done⟩ | ⟨long, fault, failed, stops⟩
  · rw [short, done, Except.bind]
    cases found : misfit? entries with
    | none =>
        obtain ⟨layer, done, holds⟩ : ∃ layer, _ ∧ _ := by simpa only [found] using read
        rw [done]
        exact ⟨layer, rfl, holds⟩
    | some given =>
        obtain ⟨fault, failed, skippable⟩ : ∃ fault, _ ∧ _ := by simpa only [found] using read
        simp only [failed, ← skippable]
        exact settles_faultReading opening (.settings fault)
  · rw [long, failed]
    exact ⟨fault, rfl, stops⟩

/-- A file that is there is read, and the document in it has to be a mapping. -/
theorem value_readFile {t : Tree} {p : Path} (there : t.exists? p = true) :
    (readFile t p).outcome.value =
      match (contentOf t p).mapError (unusable p) >>= documentOf p with
      | .ok (.map entries) => (layerOf p.render entries).outcome.value
      | .ok _ => .error (.settings (.notMapping p.render))
      | .error fault => .error fault := by
  simp only [readFile, there, Bool.not_true, Bool.false_eq_true, if_false, Attempt.value_bind,
    Attempt.value_ofExcept]
  cases (contentOf t p).mapError (unusable p) with
  | error fault => rfl
  | ok content =>
      simp only [bind, Except.bind]
      cases documentOf p content with
      | error fault => rfl
      | ok document => cases document <;> rfl

theorem settles_readFile (t : Tree) (p : Path) :
    (fileReading t p).Settles fileOpening (readFile t p).outcome.value := by
  cases there : t.exists? p with
  | false =>
      have value_eq : (readFile t p).outcome.value =
          .error (.settings (.missingFile p.render)) := by
        simp [readFile, there, Attempt.value_bind, Except.bind]
      rw [fileReading, there, value_eq]
      exact ⟨rfl, _, rfl, rfl⟩
  | true =>
      rw [fileReading, if_pos there, value_readFile there]
      split
      · exact settles_layerOf fileOpening p.render _
      next not_map _ => exact ⟨rfl, _, rfl, rfl⟩
      · exact settles_faultReading fileOpening _

/-- Where faults are turned into warnings, an attempt becomes a stage. -/
theorem stages_skipping {reading : Reading} {opening : String}
    {attempt : Attempt LoadFault Override}
    (settled : reading.Settles opening attempt.outcome.value) :
    reading.Stages (skipping opening attempt).outcome := by
  cases reading with
  | absent => exact settled.elim
  | skipped own =>
      obtain ⟨rfl, fault, failed, skippable⟩ := settled
      refine ⟨?_, fault.message, ?_⟩
      · simp [skipping, Attempt.value_bind, Except.bind, failed, skippable]
      · simp [skipping, Attempt.log_bind, Attempt.logAfter, failed, skippable]
  | fatal =>
      obtain ⟨fault, failed, stops⟩ := settled
      refine ⟨fault, ?_, stops⟩
      simp [skipping, Attempt.value_bind, Except.bind, failed, stops]
  | usable entries =>
      obtain ⟨layer, done, holds⟩ := settled
      refine ⟨layer, ?_, holds⟩
      simp [skipping, Attempt.value_bind, Except.bind, done]

theorem stages_readSection (p : Path) (found : Option Value) :
    (sectionReading found).Stages (readSection p found).outcome := by
  cases found with
  | none => rfl
  | some value =>
      cases value with
      | map entries => exact stages_skipping (settles_layerOf sectionOpening p.render entries)
      | _ => rfl

theorem stages_discovered (t : Tree) (directory : Path) :
    (ownReading t none directory).Stages (discovered t directory).outcome := by
  rw [ownReading, discovered]
  cases (fileNames.map (inDirectory directory)).find? t.exists? with
  | none => rfl
  | some p => exact stages_skipping (settles_readFile t p)

/-- Whether a document is read as the section that is found in it, by the rules of sections. -/
def Reads (p : Path) (find : Value → Except LoadFault (Option Value)) (reading : Value → Reading) :
    Prop :=
  ∀ document,
    (reading document).Stages (Attempt.ofExcept (find document) >>= readSection p).outcome

theorem reads_toolSection (p : Path) : Reads p toolSection toolReading := by
  intro document
  simp only [toolSection, toolReading]
  cases document.get? "tool" with
  | none => rfl
  | some tools =>
      cases tools with
      | map entries => exact stages_readSection p (Value.lookupText entries sectionName)
      | _ => exact ⟨_, rfl, rfl⟩

theorem reads_packageSection (p : Path) : Reads p packageSection memberReading := by
  intro document
  exact stages_readSection p (document.get? sectionName)

theorem stages_sectionLayer {t : Tree} {p : Path} {parse : List Char → Except SourceFault Value}
    {find : Value → Except LoadFault (Option Value)} {reading : Value → Reading}
    (reads : Reads p find reading) :
    (holderReading t p parse reading).Stages (sectionLayer t p parse find).outcome := by
  cases there : t.exists? p with
  | false =>
      have value_eq : (sectionLayer t p parse find).outcome.value = .ok none := by
        simp [sectionLayer, there]
      rw [holderReading, there]
      exact value_eq
  | true =>
      simp only [holderReading, sectionLayer, there, Bool.not_true, Bool.false_eq_true, if_false,
        if_true]
      cases (contentOf t p).bind parse with
      | ok document => exact reads document
      | error fault =>
          cases bounds : fault.concernsValue with
          | true =>
              simp only [faultReading, bounds, Bool.not_true, Bool.false_eq_true, if_false, if_true]
              exact ⟨.value fault, rfl, rfl⟩
          | false =>
              simp only [faultReading, bounds, Bool.not_false, Bool.false_eq_true, if_false,
                if_true]
              refine ⟨rfl, p.render ++ ": " ++ fault.explain p.render, ?_⟩
              simp [Attempt.log_bind, parseOpening, String.append_assoc]

end EnvConcord.Settings

import EnvConcord.Proofs.Settings.Layers
import EnvConcord.Proofs.Settings.Sources

/-!
# Loading settings

What settings are loaded as depends on what the sources are read as, and so does whether they
are loaded at all.  Each item of loaded settings is given by its variable, or by the usable
sources on top of the defaults.  Settings are loaded unless a source is fatal or a settings file
that was asked for cannot be used.
-/

namespace EnvConcord.Settings

open Document

section Loading

variable {t : Tree} {given : Option Path} {directory : Path}
  {environment : Option (String → Option String)}

/-- The layer of the settings file, given or looked for. -/
def ownLayer (t : Tree) (given : Option Path) (directory : Path) :
    Attempt LoadFault (Option Override) :=
  match given with
  | some p => (readFile t p).map some
  | none => discovered t directory

/-- The layer of the section among the tools of a project. -/
def pyprojectLayer (t : Tree) (directory : Path) : Attempt LoadFault (Option Override) :=
  sectionLayer t (inDirectory directory "pyproject.toml") tomlOf toolSection

/-- The layer of the section of a package. -/
def packageLayer (t : Tree) (directory : Path) : Attempt LoadFault (Option Override) :=
  sectionLayer t (inDirectory directory "package.json") jsonOf packageSection

/-- What layers and variables come to. -/
def settled (layers : List (Option Override)) (environment : Option (String → Option String)) :
    Settings :=
  environment.elim (layers.foldl applyOptional {}) fun lookup =>
    applyEnvironment lookup (layers.foldl applyOptional {})

/-- Loading reads the three sources one after another. -/
theorem load_eq :
    load t given directory environment = do
      let own ← ownLayer t given directory
      let pyproject ← pyprojectLayer t directory
      let package ← packageLayer t directory
      return settled [own, pyproject, package] environment := by
  cases given <;> cases environment <;> rfl

theorem stages_pyprojectLayer (t : Tree) (directory : Path) :
    (pyprojectReading t directory).Stages (pyprojectLayer t directory).outcome :=
  stages_sectionLayer (reads_toolSection _)

theorem stages_packageLayer (t : Tree) (directory : Path) :
    (packageReading t directory).Stages (packageLayer t directory).outcome :=
  stages_sectionLayer (reads_packageSection _)

/-- Whether a settings file was asked for that cannot be used. -/
def IsRefused (t : Tree) (given : Option Path) : Prop :=
  ∃ p, given = some p ∧ ∃ opening, fileReading t p = .skipped opening

/-- A settings file that was asked for is not passed over, but refused. -/
theorem ownLayer_cases (t : Tree) (given : Option Path) (directory : Path) :
    (IsRefused t given ∧ ∃ fault, (ownLayer t given directory).outcome.value = .error fault ∧
        fault.isSkippable = true) ∨
      (¬IsRefused t given ∧
        (ownReading t given directory).Stages (ownLayer t given directory).outcome) := by
  cases given with
  | none => exact Or.inr ⟨by simp [IsRefused], stages_discovered t directory⟩
  | some p =>
      have read := settles_readFile t p
      have value_eq : (ownLayer t (some p) directory).outcome.value =
          (readFile t p).outcome.value.map some := Attempt.value_map some (readFile t p)
      have refused_iff : IsRefused t (some p) ↔ ∃ opening, fileReading t p = .skipped opening := by
        simp [IsRefused]
      rw [refused_iff, ownReading]
      cases reading : fileReading t p with
      | absent => simp [reading, Reading.Settles] at read
      | skipped opening =>
          rw [reading] at read
          obtain ⟨-, fault, failed, skippable⟩ := read
          exact Or.inl ⟨⟨opening, rfl⟩, fault, by rw [value_eq, failed]; rfl, skippable⟩
      | fatal =>
          rw [reading] at read
          obtain ⟨fault, failed, stops⟩ := read
          exact Or.inr ⟨by simp, fault, by rw [value_eq, failed]; rfl, stops⟩
      | usable entries =>
          rw [reading] at read
          obtain ⟨layer, done, holds⟩ := read
          exact Or.inr ⟨by simp, layer, by rw [value_eq, done]; rfl, holds⟩

/-! ## What settings are loaded as -/

/-- Whether a layer is what a reading has to offer. -/
def IsLayerOf (layer : Option Override) (reading : Reading) : Prop :=
  Option.Rel Override.Holds layer reading.mapping?

theorem isLayerOf_of_stages {reading : Reading}
    {outcome : Logged (Except LoadFault (Option Override))} {layer : Option Override}
    (staged : reading.Stages outcome) (done : outcome.value = .ok layer) :
    IsLayerOf layer reading := by
  cases reading with
  | absent =>
      obtain rfl : none = layer := Except.ok.inj (staged.symm.trans done)
      exact .none
  | skipped opening =>
      obtain rfl : none = layer := Except.ok.inj (staged.1.symm.trans done)
      exact .none
  | fatal =>
      obtain ⟨fault, failed, -⟩ := staged
      rw [failed] at done
      contradiction
  | usable entries =>
      obtain ⟨own, own_done, holds⟩ := staged
      obtain rfl : some own = layer := Except.ok.inj (own_done.symm.trans done)
      exact .some holds

theorem isLayerOf_ownLayer {layer : Option Override}
    (done : (ownLayer t given directory).outcome.value = .ok layer) :
    IsLayerOf layer (ownReading t given directory) := by
  rcases ownLayer_cases t given directory with ⟨-, fault, failed, -⟩ | ⟨-, staged⟩
  · rw [failed] at done
    contradiction
  · exact isLayerOf_of_stages staged done

/-- The values that layers give are those that the mappings behind them give. -/
theorem filterMap_valueOf? {layers : List (Option Override)} {readings : List Reading}
    (related : List.Forall₂ IsLayerOf layers readings) (item : Item) :
    (layers.filterMap fun layer => layer.bind fun o => o.valueOf? item) =
      (readings.filterMap Reading.mapping?).filterMap fun entries => givenBy entries item := by
  induction related with
  | nil => rfl
  | @cons layer reading layers readings here _ ih =>
      rw [IsLayerOf] at here
      rw [List.filterMap_cons]
      generalize mapping_eq : reading.mapping? = mapping at here
      cases here with
      | none => simp [mapping_eq, ih]
      | @some o entries holds =>
          have value_eq : o.valueOf? item = givenBy entries item := holds item
          cases given_eq : givenBy entries item <;> simp [mapping_eq, value_eq, given_eq, ih]

end Loading

/-- A directory with files that hold texts. -/
def directoryOf (files : List (String × String)) : Tree where
  nodes := .ofList (files.map fun file => ([file.1], .file (Text.Utf8.encode file.2)))

/-- Three sources of settings. The first one spells a setting in both ways and gives a null member
of logging, and the second one has a misshapen value next to a usable one. -/
def layeredDirectory : Tree :=
  directoryOf
    [ (".envguardrc.json",
        "\x7b\"allowOptional\": [\"A\"], \"allow_optional\": [\"B\", \"A\"], \"extra\": 1," ++
          "\"reportFormat\": null, \"logging\": \x7b\"format\": null\x7d\x7d"),
      ("pyproject.toml", "[tool.envguard]\nallow_optional = ['C']\npaths = [1]"),
      ("package.json",
        "\x7b\"envguard\": \x7b\"allowOptional\": [\"D\", \"B\"], \"ignoreKeys\": [\"X\"]," ++
          "\"logging\": \x7b\"level\": \"INFO\"\x7d, \"exitOnError\": false\x7d\x7d") ]

/-- The variable of one setting. -/
def ignoringTwo (name : String) : Option String :=
  if name == "ENVGUARD_IGNORE_KEYS" then some " K, L,," else none

section Ending

/-- Whether a source that is passed over was warned about. -/
def Reading.WarnsIn (reading : Reading) (log : List String) : Prop :=
  ∀ opening, reading = .skipped opening → ∃ rest, opening ++ rest ∈ log

/-- How an attempt ends that goes through sources: a fatal one stops it, and otherwise it ends
after the warnings that are due. -/
def EndsAfter {α : Type} (readings : List Reading) (attempt : Attempt LoadFault α) : Prop :=
  (.fatal ∉ readings ∧ (∃ result, attempt.outcome.value = .ok result) ∧
      ∀ reading ∈ readings, reading.WarnsIn attempt.outcome.log) ∨
    (.fatal ∈ readings ∧ ∃ fault, attempt.outcome.value = .error fault ∧ fault.isSkippable = false)

theorem Reading.WarnsIn.mono {reading : Reading} {log more : List String}
    (warns : reading.WarnsIn log) (subset : log ⊆ more) : reading.WarnsIn more := by
  intro opening skipped
  obtain ⟨rest, mem⟩ := warns opening skipped
  exact ⟨rest, subset mem⟩

/-- A stage that is not stopped ends with or without a layer, after the warning that is due. -/
theorem stages_cases {reading : Reading} {outcome : Logged (Except LoadFault (Option Override))}
    (staged : reading.Stages outcome) :
    (reading ≠ .fatal ∧ ∃ layer, outcome.value = .ok layer ∧ reading.WarnsIn outcome.log) ∨
      (reading = .fatal ∧ ∃ fault, outcome.value = .error fault ∧ fault.isSkippable = false) := by
  cases reading with
  | absent => exact Or.inl ⟨by simp, none, staged, by simp [Reading.WarnsIn]⟩
  | skipped opening =>
      obtain ⟨done, rest, warned⟩ := staged
      refine Or.inl ⟨by simp, none, done, ?_⟩
      intro own own_eq
      obtain rfl := Reading.skipped.inj own_eq
      exact ⟨rest, warned⟩
  | fatal => exact Or.inr ⟨rfl, staged⟩
  | usable entries =>
      obtain ⟨layer, done, -⟩ := staged
      exact Or.inl ⟨by simp, some layer, done, by simp [Reading.WarnsIn]⟩

theorem endsAfter_pure {α : Type} (result : α) :
    EndsAfter [] (pure result : Attempt LoadFault α) :=
  Or.inl ⟨List.not_mem_nil, ⟨result, rfl⟩, List.forall_mem_nil _⟩

/-- A stage is one more source on the way. -/
theorem endsAfter_bind {α : Type} {reading : Reading} {readings : List Reading}
    {stage : Attempt LoadFault (Option Override)} {next : Option Override → Attempt LoadFault α}
    (staged : reading.Stages stage.outcome) (ends : ∀ layer, EndsAfter readings (next layer)) :
    EndsAfter (reading :: readings) (stage >>= next) := by
  rw [EndsAfter, Attempt.value_bind, Attempt.log_bind]
  rcases stages_cases staged with ⟨fine, layer, done, warns⟩ | ⟨fatal, fault, failed, stops⟩
  · simp only [done, Except.bind, Attempt.logAfter]
    rcases ends layer with ⟨rest_fine, returns, rest_warns⟩ | ⟨rest_fatal, stopped⟩
    · refine Or.inl ⟨by simp [fine.symm, rest_fine], returns, ?_⟩
      rw [List.forall_mem_cons]
      refine ⟨warns.mono (List.subset_append_left ..), ?_⟩
      exact fun other mem => (rest_warns other mem).mono (List.subset_append_right ..)
    · exact Or.inr ⟨List.mem_cons_of_mem _ rest_fatal, stopped⟩
  · exact Or.inr ⟨by simp [fatal], fault, by rw [failed]; rfl, stops⟩

/-- Loading refuses a settings file that was asked for, or ends after its three sources. -/
theorem load_cases (t : Tree) (given : Option Path) (directory : Path)
    (environment : Option (String → Option String)) :
    (IsRefused t given ∧ ∃ fault,
        (load t given directory environment).outcome.value = .error fault ∧
          fault.isSkippable = true) ∨
      (¬IsRefused t given ∧
        EndsAfter (readings t given directory) (load t given directory environment)) := by
  rw [load_eq]
  rcases ownLayer_cases t given directory with
    ⟨refused, fault, failed, skippable⟩ | ⟨allowed, staged⟩
  · exact Or.inl ⟨refused, fault, by rw [Attempt.value_bind, failed]; rfl, skippable⟩
  · refine Or.inr ⟨allowed, endsAfter_bind staged fun own => ?_⟩
    refine endsAfter_bind (stages_pyprojectLayer t directory) fun pyproject => ?_
    exact endsAfter_bind (stages_packageLayer t directory) fun package => endsAfter_pure _

/-- How loading ends: it refuses only a settings file that was asked for, and only a source that
cannot be passed over stops it; what is passed over is warned about. -/
structure EndsByReadings (t : Tree) (given : Option Path) (directory : Path)
    (environment : Option (String → Option String)) : Prop where
  returns_iff : (∃ s, (load t given directory environment).outcome.value = .ok s) ↔
    ¬IsRefused t given ∧ .fatal ∉ readings t given directory
  refuses_iff : (∃ fault, (load t given directory environment).outcome.value = .error fault ∧
      fault.isSkippable = true) ↔ IsRefused t given
  stops_iff : (∃ fault, (load t given directory environment).outcome.value = .error fault ∧
      fault.isSkippable = false) ↔ ¬IsRefused t given ∧ .fatal ∈ readings t given directory
  warns : ∀ s, (load t given directory environment).outcome.value = .ok s →
    ∀ reading ∈ readings t given directory,
      reading.WarnsIn (load t given directory environment).outcome.log

end Ending

end EnvConcord.Settings

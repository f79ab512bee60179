import EnvConcord.Command.Run
import EnvConcord.Proofs.Command.Shell
import EnvConcord.Proofs.EnvFile.Cleaning
import EnvConcord.Proofs.Text.Sorted

/-!
# What commands change

A command that checks or compares leaves the tree as it is.  The others put a text into their
output file, or take unused keys out of env files, and change nothing else, however they end.
-/

namespace EnvConcord.Command

open Printing

/-! ## What may be changed -/

/-- Whether a command may change the tree. -/
def writes : Command → Bool
  | .check _ | .validate _ | .diff _ => false
  | .generate _ | .init _ | .exportKeys _ => true
  | .clean o => o.force && !o.dryRun

/-- The settings that a command runs by are those that are loaded. -/
def LoadsSettings (s : Surroundings) (given : Option Path) (settings : Settings) : Prop :=
  (Settings.load s.tree given s.tree.home (some s.environment)).outcome.value = .ok settings

/-- Whether a path leads to a place where nothing stands, or where it is written by force. -/
structure IsFreeFor (t : Tree) (p : Path) (force : Bool) (place : List String) : Prop where
  located : t.locate p = .ok place
  allowed : t.exists? p = true → force = true

/-- What a command may put in a place. -/
inductive MayPut (s : Surroundings) : Command → List String → TreeNode → Prop
  /-- The example file of the schema. -/
  | generate {o : GenerateOptions} {place : List String} {schema : Schema} {text : String}
      (free : IsFreeFor s.tree o.output o.force place)
      (loaded : Schema.load s.tree o.schema s.tree.home = .ok schema)
      (made : Schema.exampleText schema = .ok text) :
      MayPut s (.generate o) place (.file (Text.Utf8.encode text))
  /-- The starter schema of a known name. -/
  | init {o : InitOptions} {place : List String} {document : Document.Value}
      (free : IsFreeFor s.tree o.output o.force place)
      (known : Schema.Starter.ofName? o.template = some document) :
      MayPut s (.init o) place
        (.file (Text.Utf8.encode (Report.documentText document ++ "\n")))
  /-- The example file of all keys that the source files read. -/
  | exportKeys {o : ExportOptions} {place : List String} {settings : Settings}
      (located : s.tree.locate o.output = .ok place)
      (loaded : LoadsSettings s o.config settings) :
      MayPut s (.exportKeys o) place
        (.file (Text.Utf8.encode (Audit.exampleText s.tree s.tree.home
          (if o.includeOptional then { settings with includeOptional := true }
            else settings)).value))
  /-- An env file that sets a key which the check finds unused. -/
  | clean {o : CleanOptions} {place : List String} {settings : Settings} {p : Path}
      {key value : String} {octets : List Nat}
      (forced : o.force = true) (real : o.dryRun = false)
      (loaded : LoadsSettings s o.config settings)
      (named : p ∈ Audit.envPaths s.tree.home (withEnvFiles settings o.envFiles))
      (located : s.tree.locate p = .ok place)
      (unused : key ∈ (Audit.check s.tree s.tree.home
        (withEnvFiles settings o.envFiles)).value.unused)
      (set : EnvFile.valueIn s.tree p key = some value) :
      MayPut s (.clean o) place (.file octets)

/-- A tree that a command may leave. -/
structure ChangesWithin (s : Surroundings) (c : Command) (u : Tree) : Prop where
  root_eq : u.root = s.tree.root
  keeps : c.writes = false → u = s.tree
  frame : ∀ place, u.at? place = s.tree.at? place ∨
    ∃ node, u.at? place = some node ∧ MayPut s c place node

section Commands

variable {s : Surroundings} {c : Command}

theorem yields_loadSettings {given : Option Path} {verbose : Bool} {settings : Settings}
    (yields : (loadSettings s given verbose).Yields settings) : LoadsSettings s given settings := by
  obtain ⟨loaded, loads, rest⟩ := yields_bind yields
  obtain ⟨-, -, ends⟩ := yields_bind rest
  rw [yields_pure ends]
  exact yields_attempt loads

theorem yields_loadSchema {given : Option Path} {schema : Schema}
    (yields : (loadSchema s given).Yields schema) :
    Schema.load s.tree given s.tree.home = .ok schema := by
  obtain ⟨loaded, loads, rest⟩ := yields_bind yields
  dsimp only at rest
  split at rest
  · obtain ⟨-, -, stops⟩ := yields_bind rest
    obtain ⟨_, stopped, -⟩ := yields_bind stops
    exact absurd stopped not_yields_throw
  · rw [yields_pure rest]
    exact yields_orFail loads

theorem changesWithin_self : ChangesWithin s c s.tree :=
  ⟨rfl, fun _ => rfl, fun _ => Or.inl rfl⟩

theorem changesWithin_of_writeText {p : Path} {text : String} {u : Tree}
    (written : s.tree.writeText p text = .ok u) (writes : c.writes = true)
    (may : ∀ place, s.tree.locate p = .ok place →
      MayPut s c place (.file (Text.Utf8.encode text))) : ChangesWithin s c u := by
  obtain ⟨place, located, no_directory, rfl⟩ := Tree.writeText_eq_ok_iff.1 written
  have below : place ≠ [] := by
    rintro rfl
    exact no_directory rfl
  refine ⟨rfl, by simp [writes], fun other => ?_⟩
  rw [Tree.at?_put _ below]
  split
  next here => exact Or.inr ⟨_, rfl, here ▸ may place located⟩
  next elsewhere => exact Or.inl rfl

/-! ## Each command -/

/-- Writing a new file refuses to replace one, unless it is forced to. -/
theorem leads_writeNew {p : Path} {text : String} {force : Bool} (writes : c.writes = true)
    (may : ∀ place, IsFreeFor s.tree p force place →
      MayPut s c place (.file (Text.Utf8.encode text))) :
    (writeNew p text force).Leads s.tree (ChangesWithin s c) := by
  refine Shell.keeps_tree.leads_bind changesWithin_self fun here yields => ?_
  obtain rfl := Shell.yields_tree yields
  dsimp only
  split
  · refine (Shell.keeps_ofPrinting _).leads_bind changesWithin_self fun _ _ => ?_
    refine (Shell.keeps_throw _).leads_bind changesWithin_self fun _ ends => ?_
    exact absurd ends Shell.not_yields_throw
  next free =>
    refine Shell.leads_write changesWithin_self fun u written => ?_
    refine changesWithin_of_writeText written writes fun place located => may place ⟨located, ?_⟩
    intro stands
    simpa [stands] using free

theorem leads_generate (o : GenerateOptions) :
    (runGenerate s o).Leads s.tree (ChangesWithin s (.generate o)) := by
  refine (Shell.keeps_ofPrinting _).leads_bind changesWithin_self fun schema loads => ?_
  refine (Shell.keeps_ofPrinting _).leads_bind changesWithin_self fun text makes => ?_
  have loaded := yields_loadSchema (Shell.yields_ofPrinting loads)
  have made := yields_orFail (Shell.yields_ofPrinting makes)
  refine Shell.leads_bind_keeps (leads_writeNew rfl fun _ free => .generate free loaded made) ?_
  exact fun _ => Shell.keeps_printing_bind fun _ => Shell.keeps_ofPrinting _

theorem leads_init (o : InitOptions) :
    (runInit o).Leads s.tree (ChangesWithin s (.init o)) := by
  unfold runInit
  split
  · exact (Shell.keeps_printing_bind fun _ => Shell.keeps_throw _).leads
      changesWithin_self
  next document known =>
    refine Shell.leads_bind_keeps (leads_writeNew rfl fun _ free => .init free known) fun _ => ?_
    refine Shell.keeps_printing_bind fun _ => Shell.keeps_printing_bind fun _ => ?_
    refine Shell.keeps_printing_bind fun _ => Shell.keeps_printing_bind fun _ => ?_
    exact Shell.keeps_ofPrinting _

theorem leads_export (o : ExportOptions) :
    (runExport s o).Leads s.tree (ChangesWithin s (.exportKeys o)) := by
  refine (Shell.keeps_ofPrinting _).leads_bind changesWithin_self fun settings loads => ?_
  refine (Shell.keeps_logged _).leads_bind changesWithin_self fun text makes => ?_
  have loaded := yields_loadSettings (Shell.yields_ofPrinting loads)
  obtain rfl := Shell.yields_logged makes
  refine Shell.leads_bind_keeps (Shell.leads_write changesWithin_self fun u written => ?_) ?_
  · exact changesWithin_of_writeText written rfl fun _ located => .exportKeys located loaded
  · exact fun _ => Shell.keeps_printing_bind fun _ => Shell.keeps_ofPrinting _

/-- Cleaning by force changes env files that set an unused key. -/
theorem changesWithin_clean {o : CleanOptions} {settings : Settings} (forced : o.force = true)
    (real : o.dryRun = false) (loaded : LoadsSettings s o.config settings) :
    let own := withEnvFiles settings o.envFiles
    let unused := (Audit.check s.tree s.tree.home own).value.unused
    ChangesWithin s (.clean o)
      (EnvFile.clean s.tree (Audit.envFiles s.tree.home own) unused false).value.2 := by
  intro own unused
  obtain ⟨shape, frame⟩ := EnvFile.cleanFrom_frame (Text.sortDistinct unused) s.tree
    (Audit.envFiles s.tree.home own)
  refine ⟨shape.root_eq, by simp [writes, forced, real], fun place => ?_⟩
  rcases frame place with same | ⟨file, mem, located, key, asked, value, set⟩
  · exact Or.inl same
  · obtain ⟨p, named, rfl⟩ := List.mem_map.1 mem
    obtain ⟨cs, read⟩ := EnvFile.exists_readText_of_valueIn set
    obtain ⟨octets, there⟩ := shape.exists_file located read
    have reported := Text.mem_sortDistinct.1 asked
    exact Or.inr ⟨_, there, .clean forced real loaded named located reported set⟩

theorem leads_clean (o : CleanOptions) :
    (runClean s o).Leads s.tree (ChangesWithin s (.clean o)) := by
  refine (Shell.keeps_ofPrinting _).leads_bind changesWithin_self fun settings loads => ?_
  have loaded := yields_loadSettings (Shell.yields_ofPrinting loads)
  refine (Shell.keeps_logged _).leads_bind changesWithin_self fun findings checks => ?_
  obtain rfl := Shell.yields_logged checks
  dsimp only
  split
  · exact (Shell.keeps_ofPrinting _).leads changesWithin_self
  refine (Shell.keeps_ofPrinting _).leads_bind changesWithin_self fun _ _ => ?_
  split
  · refine (Shell.keeps_bind (Shell.keeps_logged _) fun _ => ?_).leads changesWithin_self
    exact Shell.keeps_ofPrinting _
  next real =>
    split
    · refine (Shell.keeps_printing_bind fun _ => ?_).leads changesWithin_self
      exact Shell.keeps_ofPrinting _
    next forced =>
      refine (Shell.keeps_logged _).leads_bind changesWithin_self fun cleaned cleans => ?_
      obtain rfl := Shell.yields_logged cleans
      refine Shell.leads_bind_keeps (Shell.leads_setTree ?_) fun _ => Shell.keeps_ofPrinting _
      exact changesWithin_clean (by simpa using forced) (by simpa using real) loaded

theorem leads_body (c : Command) : (c.body s).Leads s.tree (ChangesWithin s c) := by
  cases c with
  | check o => exact Shell.Keeps.leads (Shell.tree_ofPrinting _) changesWithin_self
  | validate o => exact Shell.Keeps.leads (Shell.tree_ofPrinting _) changesWithin_self
  | generate o => exact leads_generate o
  | init o => exact leads_init o
  | exportKeys o => exact leads_export o
  | clean o => exact leads_clean o
  | diff o => exact Shell.Keeps.leads (Shell.tree_ofPrinting _) changesWithin_self

end Commands

/-! ## Command lines -/

/-- What a command line changes: what its command may change, or nothing without a command. -/
structure AnswersWithin (s : Surroundings) (words : List String) : Prop where
  within : ∀ c, ofWords words = .run c → ChangesWithin s c (answer s words).value.tree
  keeps : (∀ c, ofWords words ≠ .run c) → (answer s words).value.tree = s.tree

/-- A command line changes no more than its command may change, however the command ends. -/
theorem answer_answersWithin (s : Surroundings) (words : List String) : AnswersWithin s words := by
  cases asked : ofWords words with
  | run c =>
      have answered : answer s words = run s c := by rw [answer, asked]
      refine ⟨fun own own_asked => ?_, fun none_asked => absurd asked (none_asked c)⟩
      obtain rfl := Request.run.inj (asked.symm.trans own_asked)
      rw [answered]
      exact Shell.leads_reporting (leads_body c) { tree := s.tree } rfl
  | help name =>
      refine ⟨fun c own_asked => by simp [asked] at own_asked, fun _ => ?_⟩
      rw [answer, asked]
      rfl
  | misuse =>
      refine ⟨fun c own_asked => by simp [asked] at own_asked, fun _ => ?_⟩
      rw [answer, asked]
      rfl

/-- Asked for both, cleaning is a dry run. -/
example : ofWords ["clean", "--force", "--dry-run"] =
      .run (.clean { dryRun := true, force := true }) ∧
    writes (.clean { dryRun := true, force := true }) = false := by
  decide +kernel

end EnvConcord.Command

import EnvConcord.Command.Run
import EnvConcord.Proofs.Audit.Findings
import EnvConcord.Proofs.Command.Changes

/-!
# The exit code of a check

A check that comes to its report ends with a code that the directory alone decides: one if a name
is lacking, two if none is lacking but one is idle, and zero otherwise, or if the settings ask for
no code at all.
-/

namespace EnvConcord.Command

open Report

/-! ## Ways to stop -/

namespace Printing

variable {α β ε : Type}

/-- Whether a computation stops, for some text that was printed before. -/
def Stops (p : Printing α) (stop : Stop) : Prop :=
  ∃ printed, (p.run.run printed).value.1 = .error stop

/-- Whether a computation stops by failures only. -/
def OnlyFails (p : Printing α) : Prop := ∀ stop, p.Stops stop → ∃ message, stop = .failure message

theorem stops_bind {p : Printing α} {next : α → Printing β} {stop : Stop}
    (stops : (p >>= next).Stops stop) :
    p.Stops stop ∨ ∃ first, p.Yields first ∧ (next first).Stops stop := by
  obtain ⟨printed, stopped⟩ := stops
  cases ran : (p.run.run printed).value.1 with
  | error own =>
      rw [run_bind_of_error next ran] at stopped
      obtain rfl := Except.error.inj stopped
      exact Or.inl ⟨printed, ran⟩
  | ok value =>
      rw [run_bind_of_ok next ran] at stopped
      exact Or.inr ⟨value, ⟨printed, ran⟩, _, stopped⟩

theorem eq_of_stops_throw {own stop : Stop} (stops : (throw own : Printing α).Stops stop) :
    stop = own := by
  obtain ⟨printed, stopped⟩ := stops
  exact (Except.error.inj stopped).symm

theorem OnlyFails.stops_bind {p : Printing α} (only_fails : p.OnlyFails)
    {next : α → Printing β} {stop : Stop} (stops : (p >>= next).Stops stop) :
    (∃ message, stop = .failure message) ∨
      ∃ first, p.Yields first ∧ (next first).Stops stop :=
  (Printing.stops_bind stops).imp_left (only_fails stop)

theorem onlyFails_bind {p : Printing α} {next : α → Printing β} (first : p.OnlyFails)
    (rest : ∀ value, (next value).OnlyFails) : (p >>= next).OnlyFails := by
  intro stop stops
  rcases first.stops_bind stops with failed | ⟨value, -, rest_stops⟩
  · exact failed
  · exact rest value stop rest_stops

theorem onlyFails_pure (value : α) : (pure value : Printing α).OnlyFails := by
  rintro stop ⟨printed, stopped⟩
  contradiction

theorem onlyFails_logged (l : Logged α) : (monadLift l : Printing α).OnlyFails := by
  rintro stop ⟨printed, stopped⟩
  contradiction

theorem onlyFails_put (text : String) : (put text).OnlyFails := by
  rintro stop ⟨printed, stopped⟩
  contradiction

theorem onlyFails_fail (message : String) : (fail message : Printing α).OnlyFails :=
  fun _ stops => ⟨message, eq_of_stops_throw stops⟩

theorem onlyFails_orFail (message : ε → String) (outcome : Except ε α) :
    (orFail message outcome).OnlyFails := by
  cases outcome with
  | ok value => exact onlyFails_pure value
  | error fault => exact onlyFails_fail (message fault)

theorem onlyFails_attempt (message : ε → String) (a : Attempt ε α) :
    (attempt message a).OnlyFails :=
  onlyFails_bind (onlyFails_logged a.outcome) fun _ => onlyFails_orFail _ _

theorem onlyFails_say (message : String) : (say message).OnlyFails :=
  onlyFails_bind (onlyFails_orFail _ _) fun _ => onlyFails_put _

/-- A loop stops where one of its turns does. -/
theorem onlyFails_forIn {items : List α} {turn : α → Printing Unit}
    (turns : ∀ item, (turn item).OnlyFails) :
    (forIn items PUnit.unit fun item _ => do
      turn item
      pure (ForInStep.yield PUnit.unit) : Printing PUnit).OnlyFails := by
  induction items with
  | nil => exact onlyFails_pure _
  | cons item rest ih =>
      rw [List.forIn_cons]
      refine onlyFails_bind (onlyFails_bind (turns item) fun _ => onlyFails_pure _) fun step => ?_
      cases step with
      | done => exact onlyFails_pure _
      | yield => exact ih

end Printing

theorem onlyFails_loadSettings (s : Surroundings) (given : Option Path) (verbose : Bool) :
    (loadSettings s given verbose).OnlyFails := by
  refine Printing.onlyFails_bind (Printing.onlyFails_attempt _ _) fun _ => ?_
  exact Printing.onlyFails_bind (Printing.onlyFails_orFail _ _) fun _ => Printing.onlyFails_pure _

theorem onlyFails_printDiagnostics (file : EnvFile) : (printDiagnostics file).OnlyFails := by
  unfold printDiagnostics
  split
  · exact Printing.onlyFails_pure _
  · refine Printing.onlyFails_bind (Printing.onlyFails_say _) fun _ => ?_
    refine Printing.onlyFails_bind (Printing.onlyFails_forIn fun _ => ?_) fun _ => ?_
    · exact Printing.onlyFails_put _
    · exact Printing.onlyFails_pure _

/-! ## Checks that come to their report -/

/-- Whether a check comes to its report: nothing fails before. -/
def Reports (s : Surroundings) (o : CheckOptions) : Prop :=
  ∀ message, ((runCheck s o).run.run "").value.1 ≠ .error (.failure message)

section Checks

variable {s : Surroundings} {o : CheckOptions}

/-- What follows the diagnostics of a check: its report and its code. -/
theorem stop_of_report {report : String} {code : Nat} {stop : Stop}
    (stops : (do Printing.echo report; throw (.exit code) : Printing Unit).Stops stop) :
    stop = .exit code := by
  rcases Printing.stops_bind stops with ⟨_, stopped⟩ | ⟨_, -, stops⟩
  · contradiction
  · exact Printing.eq_of_stops_throw stops

/-- A check fails, or it audits the directory by its settings and ends with the code of the
findings. -/
theorem stop_of_runCheck {stop : Stop} (stops : (runCheck s o).Stops stop) :
    (∃ message, stop = .failure message) ∨ ∃ settings, LoadsSettings s o.config settings ∧
      stop = .exit (checkCode (withEnvFiles settings o.envFiles) (Audit.run s.tree s.tree.home
        (withEnvFiles settings o.envFiles)).value.findings) := by
  rcases (onlyFails_loadSettings _ _ _).stops_bind stops with failed | ⟨settings, loads, stops⟩
  · exact Or.inl failed
  rcases (Printing.onlyFails_logged _).stops_bind stops with failed | ⟨run, audits, stops⟩
  · exact Or.inl failed
  obtain ⟨_, audited⟩ := audits
  obtain rfl := Except.ok.inj audited
  have loaded := yields_loadSettings loads
  dsimp only at stops
  split at stops
  · rcases (Printing.onlyFails_forIn onlyFails_printDiagnostics).stops_bind stops with
      failed | ⟨_, -, stops⟩
    · exact Or.inl failed
    · exact Or.inr ⟨settings, loaded, stop_of_report stops⟩
  · exact Or.inr ⟨settings, loaded, stop_of_report stops⟩

theorem not_yields_report {report : String} {code : Nat} :
    ¬(do Printing.echo report; throw (.exit code) : Printing Unit).Yields () := by
  intro yields
  obtain ⟨_, -, ends⟩ := Printing.yields_bind yields
  exact Printing.not_yields_throw ends

/-- A check never comes to its end without a code or a failure. -/
theorem not_yields_runCheck : ¬(runCheck s o).Yields () := by
  intro yields
  obtain ⟨settings, -, yields⟩ := Printing.yields_bind yields
  obtain ⟨run, -, yields⟩ := Printing.yields_bind yields
  dsimp only at yields
  split at yields
  · obtain ⟨_, -, yields⟩ := Printing.yields_bind yields
    exact not_yields_report yields
  · exact not_yields_report yields

theorem code_of_reports (reports : Reports s o) :
    ∃ settings, LoadsSettings s o.config settings ∧
      ((runCheck s o).run.run "").value.1 = .error (.exit (checkCode
        (withEnvFiles settings o.envFiles) (Audit.run s.tree s.tree.home
          (withEnvFiles settings o.envFiles)).value.findings)) := by
  cases ran : ((runCheck s o).run.run "").value.1 with
  | ok done => exact absurd ⟨"", ran⟩ not_yields_runCheck
  | error stop =>
      rcases stop_of_runCheck ⟨"", ran⟩ with ⟨message, rfl⟩ | ⟨settings, loaded, rfl⟩
      · exact absurd ran (reports message)
      · exact ⟨settings, loaded, rfl⟩

/-- The report of failures leaves codes alone. -/
theorem ending_run_check {code : Nat}
    (stopped : ((runCheck s o).run.run "").value.1 = .error (.exit code)) :
    (run s (.check o)).value.ending = .exit code := by
  have ran : ((body s (.check o)).run.run { tree := s.tree }).value.1 = .error (.exit code) :=
    stopped
  have ending_eq : (run s (.check o)).value.ending = Ending.ofResult
      ((Shell.reporting (failureCode (.check o)) (body s (.check o))).run.run
        { tree := s.tree }).value.1 := rfl
  rw [ending_eq, Shell.reporting, Shell.run_tryCatch_of_error _ ran]
  rfl

end Checks

/-! ## The code of the findings -/

/-- Whether an ending is that of a check of a directory by some settings. -/
structure IsEndingOf (t : Tree) (directory : Path) (settings : Settings) (ending : Ending) :
    Prop where
  one_iff : ending = .exit 1 ↔
    settings.exitOnError = true ∧ ∃ name, Audit.IsLacking t directory settings name
  two_iff : ending = .exit 2 ↔
    settings.exitOnError = true ∧ (¬∃ name, Audit.IsLacking t directory settings name) ∧
      ∃ name, Audit.IsIdle t directory settings name
  zero_iff : ending = .exit 0 ↔
    settings.exitOnError = false ∨ ((¬∃ name, Audit.IsLacking t directory settings name) ∧
      ¬∃ name, Audit.IsIdle t directory settings name)

theorem exists_isLacking_iff {t : Tree} {directory : Path} {settings : Settings} :
    (∃ name, Audit.IsLacking t directory settings name) ↔
      0 < (Audit.run t directory settings).value.findings.missing.length := by
  simp only [← Audit.mem_missing_run_iff, List.length_pos_iff_exists_mem]

theorem exists_isIdle_iff {t : Tree} {directory : Path} {settings : Settings} :
    (∃ name, Audit.IsIdle t directory settings name) ↔
      0 < (Audit.run t directory settings).value.findings.unused.length ∨
        0 < (Audit.run t directory settings).value.findings.empty.length := by
  simp only [← Audit.mem_unused_or_empty_run_iff, exists_or, List.length_pos_iff_exists_mem]

/-- The code counts findings: missing keys come first, then unused and empty ones. -/
theorem checkCode_eq {settings : Settings} {findings : Findings}
    (total : findings.summary.totalIssues =
      findings.missing.length + findings.unused.length + findings.empty.length) :
    checkCode settings findings =
      if settings.exitOnError = false then 0
      else if 0 < findings.missing.length then 1
      else if 0 < findings.unused.length ∨ 0 < findings.empty.length then 2
      else 0 := by
  cases heeded : settings.exitOnError with
  | false => simp [checkCode, heeded]
  | true =>
      have quiet_iff : findings.summary.totalIssues ≤ 0 ↔ ¬0 < findings.missing.length ∧
          ¬(0 < findings.unused.length ∨ 0 < findings.empty.length) := by
        rw [total]
        omega
      have missing_iff : findings.missing.isEmpty = true ↔ ¬0 < findings.missing.length := by
        rw [List.isEmpty_iff, List.length_pos_iff, not_not]
      simp only [checkCode, heeded, quiet_iff, missing_iff]
      split_ifs <;> simp_all

theorem isEndingOf_checkCode (t : Tree) (directory : Path) (settings : Settings) :
    IsEndingOf t directory settings
      (.exit (checkCode settings (Audit.run t directory settings).value.findings)) := by
  have total := Reconcile.totalIssues_eq
    (EnvFile.mergedEntries t (Audit.envPaths directory settings)) settings
    (Audit.scannedKeys t directory settings)
  rw [← Audit.findings_run] at total
  constructor <;> simp only [checkCode_eq total, exists_isLacking_iff, exists_isIdle_iff]
  all_goals split_ifs <;> simp_all

/-! ## Command lines -/

/-- A check that comes to its report ends with the code that the directory and the settings
decide. -/
theorem answer_isEndingOf {s : Surroundings} {words : List String} {o : CheckOptions}
    (asked : ofWords words = .run (.check o)) (reports : Reports s o) :
    ∃ settings, LoadsSettings s o.config settings ∧
      IsEndingOf s.tree s.tree.home (withEnvFiles settings o.envFiles)
        (answer s words).value.ending := by
  obtain ⟨settings, loaded, stopped⟩ := code_of_reports reports
  refine ⟨settings, loaded, ?_⟩
  have answered : answer s words = run s (.check o) := by rw [answer, asked]
  rw [answered, ending_run_check stopped]
  exact isEndingOf_checkCode _ _ _

/-- A directory whose source file reads one name and whose env file sets another one. -/
def smallProject : Surroundings where
  tree.nodes := .ofList
    [ (["src"], .directory),
      (["src", "app.js"], .file (Text.Utf8.encode "connect(process.env.DB_URL)\n")),
      ([".env"], .file (Text.Utf8.encode "OLD=1\n")) ]

/-- Its check comes to the report and ends with code one, for a name that is lacking. -/
theorem answer_isEndingOf_smallProject :
    ofWords ["check"] = .run (.check {}) ∧ Reports smallProject {} ∧
      ∃ settings, LoadsSettings smallProject none settings ∧
        ∃ name, Audit.IsLacking smallProject.tree smallProject.tree.home settings name := by
  have asked : ofWords ["check"] = .run (.check {}) := by decide +kernel
  have stopped : ((runCheck smallProject {}).run.run "").value.1 = .error (.exit 1) := by
    decide +kernel
  have reports : Reports smallProject {} := by
    intro message failed
    simp [stopped] at failed
  obtain ⟨settings, loaded, decided⟩ := answer_isEndingOf asked reports
  have ending : (answer smallProject ["check"]).value.ending = .exit 1 := by decide +kernel
  exact ⟨asked, reports, settings, loaded, (decided.one_iff.1 ending).2⟩

end EnvConcord.Command

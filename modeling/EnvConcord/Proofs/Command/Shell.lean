import EnvConcord.Command.Shell

/-!
# Results and trees of commands

A computation that prints comes to results; a computation in the shell leads from one tree to
another.  Both are followed step by step: through a sequence of computations, through a change of
the tree, and through the report of a failure.
-/

namespace EnvConcord.Command

open Report

variable {α β ε : Type}

/-! ## Results of printing -/

namespace Printing

/-- Whether a computation comes to a result, for some text that was printed before. -/
def Yields (p : Printing α) (result : α) : Prop :=
  ∃ printed, (p.run.run printed).value.1 = .ok result

section Sequences

variable {p : Printing α} {printed : String} (next : α → Printing β)

theorem run_bind (p : Printing α) (printed : String) :
    ((p >>= next).run.run printed).value =
      ((ExceptT.bindCont next (p.run.run printed).value.1).run
        (p.run.run printed).value.2).value := rfl

theorem run_bind_of_ok {result : α} (ran : (p.run.run printed).value.1 = .ok result) :
    ((p >>= next).run.run printed).value =
      ((next result).run.run (p.run.run printed).value.2).value := by
  rw [run_bind, ran]
  rfl

theorem run_bind_of_error {stop : Stop} (ran : (p.run.run printed).value.1 = .error stop) :
    ((p >>= next).run.run printed).value = (.error stop, (p.run.run printed).value.2) := by
  rw [run_bind, ran]
  rfl

end Sequences

theorem yields_bind {p : Printing α} {next : α → Printing β} {result : β}
    (yields : (p >>= next).Yields result) :
    ∃ first, p.Yields first ∧ (next first).Yields result := by
  obtain ⟨printed, done⟩ := yields
  cases ran : (p.run.run printed).value.1 with
  | error stop =>
      rw [run_bind_of_error next ran] at done
      contradiction
  | ok value =>
      rw [run_bind_of_ok next ran] at done
      exact ⟨value, ⟨printed, ran⟩, _, done⟩

theorem yields_pure {value result : α} (yields : (pure value : Printing α).Yields result) :
    result = value := by
  obtain ⟨printed, done⟩ := yields
  exact (Except.ok.inj done).symm

theorem not_yields_throw {stop : Stop} {result : α} :
    ¬(throw stop : Printing α).Yields result := by
  rintro ⟨printed, done⟩
  contradiction

theorem yields_orFail {message : ε → String} {outcome : Except ε α} {result : α}
    (yields : (orFail message outcome).Yields result) : outcome = .ok result := by
  cases outcome with
  | ok value => rw [yields_pure yields]
  | error fault => exact absurd yields not_yields_throw

theorem yields_attempt {message : ε → String} {a : Attempt ε α} {result : α}
    (yields : (attempt message a).Yields result) : a.outcome.value = .ok result := by
  obtain ⟨outcome, ⟨printed, lifted⟩, done⟩ := yields_bind yields
  rw [yields_orFail done] at lifted
  exact Except.ok.inj lifted

end Printing

/-! ## Trees of the shell -/

namespace Shell

/-- Whether a computation on a tree comes to a result, for some text that was printed before. -/
def Yields (x : Shell α) (t : Tree) (result : α) : Prop :=
  ∃ s : Session, s.tree = t ∧ (x.run.run s).value.1 = .ok result

/-- Whether a computation leaves every tree as it is, however it ends. -/
def Keeps (x : Shell α) : Prop := ∀ s : Session, (x.run.run s).value.2.tree = s.tree

/-- Whether a computation on a tree ends with a tree of some kind, however it ends. -/
def Leads (x : Shell α) (t : Tree) (kind : Tree → Prop) : Prop :=
  ∀ s : Session, s.tree = t → kind (x.run.run s).value.2.tree

section Sequences

variable {x : Shell α} {s : Session} (next : α → Shell β) (handler : Stop → Shell α)

theorem run_bind (x : Shell α) (s : Session) :
    ((x >>= next).run.run s).value =
      ((ExceptT.bindCont next (x.run.run s).value.1).run (x.run.run s).value.2).value := rfl

theorem run_bind_of_ok {result : α} (ran : (x.run.run s).value.1 = .ok result) :
    ((x >>= next).run.run s).value = ((next result).run.run (x.run.run s).value.2).value := by
  rw [run_bind, ran]
  rfl

theorem run_bind_of_error {stop : Stop} (ran : (x.run.run s).value.1 = .error stop) :
    ((x >>= next).run.run s).value = (.error stop, (x.run.run s).value.2) := by
  rw [run_bind, ran]
  rfl

theorem run_tryCatch_of_ok {result : α} (ran : (x.run.run s).value.1 = .ok result) :
    ((tryCatch x handler).run.run s).value = (.ok result, (x.run.run s).value.2) := by
  simp only [tryCatch, tryCatchThe, MonadExceptOf.tryCatch, ExceptT.tryCatch, ExceptT.run,
    ExceptT.mk, StateT.run, bind, StateT.bind, Logged.bind] at ran ⊢
  rw [ran]
  rfl

theorem run_tryCatch_of_error {stop : Stop} (ran : (x.run.run s).value.1 = .error stop) :
    ((tryCatch x handler).run.run s).value =
      ((handler stop).run.run (x.run.run s).value.2).value := by
  simp only [tryCatch, tryCatchThe, MonadExceptOf.tryCatch, ExceptT.tryCatch, ExceptT.run,
    ExceptT.mk, StateT.run, bind, StateT.bind, Logged.bind] at ran ⊢
  rw [ran]

end Sequences

theorem keeps_ofPrinting (p : Printing α) : (liftM p : Shell α).Keeps := tree_ofPrinting p

theorem keeps_logged (l : Logged α) : (monadLift l : Shell α).Keeps := fun _ => rfl

theorem keeps_tree : tree.Keeps := fun _ => rfl

theorem keeps_throw (stop : Stop) : (throw stop : Shell α).Keeps := fun _ => rfl

theorem keeps_bind {x : Shell α} {next : α → Shell β} (first : x.Keeps)
    (rest : ∀ result, (next result).Keeps) : (x >>= next).Keeps := by
  intro s
  cases ran : (x.run.run s).value.1 with
  | error stop =>
      rw [run_bind_of_error next ran]
      exact first s
  | ok result => rw [run_bind_of_ok next ran, rest result, first s]

/-- What follows on printed text alone decides whether the tree is kept. -/
theorem keeps_printing_bind {p : Printing α} {next : α → Shell β}
    (rest : ∀ result, (next result).Keeps) : ((liftM p : Shell α) >>= next).Keeps :=
  keeps_bind (keeps_ofPrinting p) rest

theorem yields_ofPrinting {p : Printing α} {t : Tree} {result : α}
    (yields : (liftM p : Shell α).Yields t result) : p.Yields result := by
  obtain ⟨s, -, done⟩ := yields
  exact ⟨s.printed, done⟩

theorem yields_logged {l : Logged α} {t : Tree} {result : α}
    (yields : (monadLift l : Shell α).Yields t result) : result = l.value := by
  obtain ⟨s, -, done⟩ := yields
  exact (Except.ok.inj done).symm

theorem not_yields_throw {stop : Stop} {t : Tree} {result : α} :
    ¬(throw stop : Shell α).Yields t result := by
  rintro ⟨s, -, done⟩
  contradiction

theorem yields_tree {t result : Tree} (yields : tree.Yields t result) : result = t := by
  obtain ⟨s, rfl, done⟩ := yields
  exact (Except.ok.inj done).symm

section Trees

variable {t : Tree} {kind : Tree → Prop}

theorem Keeps.leads {x : Shell α} (keeps : x.Keeps) (start : kind t) : x.Leads t kind := by
  rintro s rfl
  rwa [keeps s]

/-- After a computation that keeps the tree, the next one starts from the same tree. -/
theorem Keeps.leads_bind {x : Shell α} {next : α → Shell β} (keeps : x.Keeps) (start : kind t)
    (goes : ∀ result, x.Yields t result → (next result).Leads t kind) :
    (x >>= next).Leads t kind := by
  rintro s rfl
  cases ran : (x.run.run s).value.1 with
  | error stop =>
      rw [run_bind_of_error next ran]
      simpa only [keeps s] using start
  | ok result =>
      rw [run_bind_of_ok next ran]
      exact goes result ⟨s, rfl, ran⟩ _ (keeps s)

/-- What follows a computation and keeps the tree does not matter. -/
theorem leads_bind_keeps {x : Shell α} {next : α → Shell β} (leads : x.Leads t kind)
    (rest : ∀ result, (next result).Keeps) : (x >>= next).Leads t kind := by
  intro s start
  cases ran : (x.run.run s).value.1 with
  | error stop =>
      rw [run_bind_of_error next ran]
      exact leads s start
  | ok result =>
      rw [run_bind_of_ok next ran, rest result]
      exact leads s start

theorem leads_setTree {u : Tree} (new : kind u) : (setTree u).Leads t kind := fun _ _ => new

/-- Writing ends with the tree as it was, or with the text in its file. -/
theorem leads_write {p : Path} {text : String} (start : kind t)
    (written : ∀ u, t.writeText p text = .ok u → kind u) : (write p text).Leads t kind := by
  refine keeps_tree.leads_bind start fun here yields_here => ?_
  obtain rfl := yields_tree yields_here
  refine (keeps_ofPrinting _).leads_bind start fun u yields => ?_
  exact leads_setTree (written u (Printing.yields_orFail (yields_ofPrinting yields)))

/-- Reporting a failure keeps the tree. -/
theorem leads_reporting {code : Nat} {body : Shell Unit} (leads : body.Leads t kind) :
    (reporting code body).Leads t kind := by
  intro s start
  rw [reporting]
  cases ran : (body.run.run s).value.1 with
  | ok result =>
      rw [run_tryCatch_of_ok _ ran]
      exact leads s start
  | error stop =>
      rw [run_tryCatch_of_error _ ran]
      cases stop with
      | failure message =>
          rw [keeps_ofPrinting]
          exact leads s start
      | exit own => exact leads s start
      | crash cause => exact leads s start

end Trees

end Shell

end EnvConcord.Command

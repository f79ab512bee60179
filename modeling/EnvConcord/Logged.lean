/-!
# Computations with warnings

A computation may warn on its way to a result.  Warnings are kept in the order in which
they arise, also where the result is a fault.
-/

namespace EnvConcord

/-- A result with the warnings on the way to it. -/
structure Logged (α : Type) where
  value : α
  log : List String := []
  deriving Repr, Inhabited

namespace Logged

/-- Go on with a result; the further warnings come later. -/
def bind (first : Logged α) (next : α → Logged β) : Logged β :=
  let second := next first.value
  { value := second.value, log := first.log ++ second.log }

instance : Monad Logged where
  pure value := { value }
  bind := bind

/-- Warn. -/
def warn (text : String) : Logged Unit := { value := (), log := [text] }

@[simp] theorem log_bind (first : Logged α) (next : α → Logged β) :
    (first >>= next).log = first.log ++ (next first.value).log := rfl

@[simp] theorem value_bind (first : Logged α) (next : α → Logged β) :
    (first >>= next).value = (next first.value).value := rfl

@[ext] theorem ext (first second : Logged α) (value_eq : first.value = second.value)
    (log_eq : first.log = second.log) : first = second := by
  cases first
  cases second
  simp_all

theorem lawfulMonad : LawfulMonad Logged :=
  LawfulMonad.mk' Logged (fun x => ext _ _ rfl (List.append_nil x.log))
    (fun _ _ => ext _ _ rfl (List.nil_append _))
    (fun _ _ _ => ext _ _ rfl (List.append_assoc _ _ _))

/-- The results of a traversal are the results of its steps. -/
theorem value_mapM {α β : Type} (step : α → Logged β) (items : List α) :
    (items.mapM step).value = items.map fun item => (step item).value := by
  induction items with
  | nil => rfl
  | cons item rest ih =>
      have := lawfulMonad
      rw [List.mapM_cons, value_bind, value_bind, ih, List.map_cons]
      rfl

/-- The result of a loop is the result of its steps without their warnings. -/
theorem value_foldlM {α β : Type} (step : β → α → Logged β) (start : β) (items : List α) :
    (items.foldlM step start).value =
      items.foldl (fun state item => (step state item).value) start := by
  induction items generalizing start with
  | nil => rfl
  | cons item rest ih =>
      rw [List.foldlM_cons, value_bind, ih]
      rfl

end Logged

/-- A computation that may warn and may fail. -/
abbrev Attempt (ε α : Type) := ExceptT ε Logged α

/-- The outcome of an attempt, with its warnings. -/
def Attempt.outcome (attempt : Attempt ε α) : Logged (Except ε α) := attempt.run

/-- An attempt without warnings. -/
def Attempt.ofExcept (result : Except ε α) : Attempt ε α := ExceptT.mk { value := result }

/-- Warn on the way. -/
def Attempt.warn (text : String) : Attempt ε Unit := ExceptT.lift (Logged.warn text)

namespace Attempt

/-- What is warned about when an attempt goes on after a result. -/
def logAfter (result : Except ε α) (next : α → Attempt ε β) : List String :=
  match result with
  | .ok value => (next value).outcome.log
  | .error _ => []

theorem value_bind (first : Attempt ε α) (next : α → Attempt ε β) :
    (first >>= next).outcome.value =
      first.outcome.value.bind fun value => (next value).outcome.value := by
  have run_eq : (first >>= next).outcome = first.outcome >>= ExceptT.bindCont next := rfl
  rw [run_eq, Logged.value_bind]
  cases first.outcome.value <;> rfl

theorem log_bind (first : Attempt ε α) (next : α → Attempt ε β) :
    (first >>= next).outcome.log = first.outcome.log ++ logAfter first.outcome.value next := by
  have run_eq : (first >>= next).outcome = first.outcome >>= ExceptT.bindCont next := rfl
  rw [run_eq, Logged.log_bind]
  cases first.outcome.value <;> rfl

theorem value_map (f : α → β) (attempt : Attempt ε α) :
    (outcome (ExceptT.map f attempt)).value = attempt.outcome.value.map f := by
  obtain ⟨value, -⟩ := attempt
  cases value <;> rfl

@[simp] theorem value_pure (value : α) : (pure value : Attempt ε α).outcome.value = .ok value := rfl

@[simp] theorem value_ofExcept (result : Except ε α) :
    (ofExcept result).outcome.value = result := rfl

@[simp] theorem log_ofExcept (result : Except ε α) : (ofExcept result).outcome.log = [] := rfl

@[simp] theorem value_throw (fault : ε) :
    (throw fault : Attempt ε α).outcome.value = .error fault := rfl

@[simp] theorem value_lift (logged : Logged α) :
    (outcome (ExceptT.lift logged : Attempt ε α)).value = .ok logged.value := rfl

@[simp] theorem log_lift (logged : Logged α) :
    (outcome (ExceptT.lift logged : Attempt ε α)).log = logged.log := by
  have log_eq : (outcome (ExceptT.lift logged : Attempt ε α)).log = logged.log ++ [] := rfl
  rw [log_eq, List.append_nil]

@[simp] theorem value_warn (text : String) :
    (warn text : Attempt ε Unit).outcome.value = .ok () := rfl

@[simp] theorem log_warn (text : String) : (warn text : Attempt ε Unit).outcome.log = [text] := rfl

/-- An attempt comes to a result exactly if its first part and what follows on it do. -/
theorem value_bind_eq_ok_iff {first : Attempt ε α} {next : α → Attempt ε β} {result : β} :
    (first >>= next).outcome.value = .ok result ↔
      ∃ value, first.outcome.value = .ok value ∧ (next value).outcome.value = .ok result := by
  rw [value_bind]
  cases first.outcome.value <;> simp [Except.bind]

/-- The result of a traversal is that of the traversal by the results of its steps. -/
theorem value_mapM {ε α β : Type} (step : α → Attempt ε β) (items : List α) :
    (items.mapM step).outcome.value = items.mapM fun item => (step item).outcome.value := by
  induction items with
  | nil => rfl
  | cons item rest ih =>
      have := Logged.lawfulMonad
      rw [List.mapM_cons, List.mapM_cons, value_bind]
      simp only [value_bind, ih, value_pure]
      rfl

end Attempt

end EnvConcord

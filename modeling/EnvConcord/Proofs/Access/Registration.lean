import EnvConcord.Access.Registry
import EnvConcord.Proofs.Collection.Dict
import Mathlib.Data.List.Induction

/-!
# The dialect of a path

A registration changes the dialect of exactly the paths whose suffix it is for.  After any
history of registrations a path has the last dialect for its suffix, so registrations for
different suffixes commute.
-/

namespace EnvConcord

namespace Dialect

/-- Whether a dialect is for files of a suffix, whatever the case of either. -/
def Serves (d : Dialect) (suffix : String) : Prop :=
  ∃ extension ∈ d.extensions, Text.lowered extension = Text.lowered suffix

instance (d : Dialect) (suffix : String) : Decidable (d.Serves suffix) :=
  inferInstanceAs (Decidable (∃ extension ∈ d.extensions, _))

/-- Whether two dialects are for different suffixes, whatever their case. -/
def Apart (d e : Dialect) : Prop :=
  ∀ extension ∈ d.extensions, ∀ other ∈ e.extensions,
    Text.lowered extension ≠ Text.lowered other

instance (d e : Dialect) : Decidable (d.Apart e) :=
  inferInstanceAs (Decidable (∀ extension ∈ d.extensions, _))

theorem Apart.not_serves {d e : Dialect} (apart : d.Apart e) {suffix : String}
    (serves : d.Serves suffix) : ¬e.Serves suffix := by
  obtain ⟨extension, mem, extension_eq⟩ := serves
  rintro ⟨other, other_mem, other_eq⟩
  exact apart extension mem other other_mem (extension_eq.trans other_eq.symm)

end Dialect

namespace Access

/-- Of a list of dialects, the one for a suffix: the last that serves it, or else the fallback. -/
inductive Chooses (dialects : List Dialect) (fallback : Dialect) (suffix : String) :
    Dialect → Prop
  | last {before : List Dialect} {dialect : Dialect} {after : List Dialect}
      (listed : dialects = before ++ dialect :: after) (serves : dialect.Serves suffix)
      (none_later : ∀ later ∈ after, ¬later.Serves suffix) :
      Chooses dialects fallback suffix dialect
  | fallback (none_serves : ∀ dialect ∈ dialects, ¬dialect.Serves suffix) :
      Chooses dialects fallback suffix fallback

section Choice

variable {dialects : List Dialect} {last fallback chosen : Dialect} {suffix : String}

theorem chooses_concat_of_serves (serves : last.Serves suffix) :
    Chooses (dialects ++ [last]) fallback suffix chosen ↔ last = chosen := by
  constructor
  · intro choice
    cases choice with
    | @last before _ after listed _ none_later =>
        cases after using List.reverseRecOn with
        | nil => exact (List.append_singleton_inj.1 listed).2
        | append_singleton after final =>
            rw [← List.cons_append, ← List.append_assoc, List.append_singleton_inj] at listed
            rw [← listed.2] at none_later
            exact absurd serves (none_later last (by simp))
    | fallback none_serves => exact absurd serves (none_serves last (by simp))
  · rintro rfl
    exact .last rfl serves (by simp)

theorem chooses_concat_of_not_serves (idle : ¬last.Serves suffix) :
    Chooses (dialects ++ [last]) fallback suffix chosen ↔
      Chooses dialects fallback suffix chosen := by
  constructor
  · intro choice
    cases choice with
    | @last before _ after listed serves none_later =>
        cases after using List.reverseRecOn with
        | nil =>
            rw [(List.append_singleton_inj.1 listed).2] at idle
            exact absurd serves idle
        | append_singleton after final =>
            rw [← List.cons_append, ← List.append_assoc, List.append_singleton_inj] at listed
            exact .last listed.1 serves fun later mem => none_later later (by simp [mem])
    | fallback none_serves =>
        exact .fallback fun dialect mem => none_serves dialect (by simp [mem])
  · intro choice
    have still_idle : ∀ {others : List Dialect}, (∀ other ∈ others, ¬other.Serves suffix) →
        ∀ other ∈ others ++ [last], ¬other.Serves suffix := by
      intro others none_serves
      exact List.forall_mem_append.2 ⟨none_serves, List.forall_mem_singleton.2 idle⟩
    cases choice with
    | last listed serves none_later =>
        subst listed
        exact .last (List.append_assoc _ _ _) serves (still_idle none_later)
    | fallback none_serves => exact .fallback (still_idle none_serves)

end Choice

namespace Registry

/-- A registry to which dialects are registered one after the other. -/
def registerAll (r : Registry) (dialects : List Dialect) : Registry := dialects.foldl register r

/-- A registration is for the files of its suffixes and leaves all others alone. -/
theorem forPath_register (r : Registry) (dialect : Dialect) (path : String) :
    (r.register dialect).forPath path =
      if dialect.Serves (Path.parse path).suffix then dialect else r.forPath path := by
  have inserted : dialect.extensions.map (fun own => (Text.lowered own, dialect)) =
      (dialect.extensions.map Text.lowered).map fun own => (own, dialect) := by
    rw [List.map_map]
    rfl
  rw [forPath, register, inserted, Dict.get?_insertAll_const]
  by_cases serves : dialect.Serves (Path.parse path).suffix
  · rw [if_pos serves, if_pos (List.mem_map.2 serves), Option.getD_some]
  · rw [if_neg serves, if_neg (mt List.mem_map.1 serves)]
    rfl

/-- After registrations a path has the last dialect for its suffix, or else the one that it had
before. -/
theorem forPath_registerAll_iff (r : Registry) (dialects : List Dialect) (path : String)
    (chosen : Dialect) :
    (r.registerAll dialects).forPath path = chosen ↔
      Chooses dialects (r.forPath path) (Path.parse path).suffix chosen := by
  induction dialects using List.reverseRecOn with
  | nil =>
      constructor
      · rintro rfl
        exact .fallback (by simp)
      · rintro (⟨listed, _, _⟩ | _)
        · simp at listed
        · rfl
  | append_singleton dialects last ih =>
      rw [registerAll, List.foldl_append, List.foldl_cons, List.foldl_nil, forPath_register]
      split
      next serves => rw [chooses_concat_of_serves serves]
      next idle => rw [chooses_concat_of_not_serves idle, ← ih, registerAll]

theorem registerAll_append (r : Registry) (first second : List Dialect) :
    r.registerAll (first ++ second) = (r.registerAll first).registerAll second :=
  List.foldl_append

/-- The dialects of paths after registrations depend on those before only. -/
theorem forPath_registerAll_congr {r s : Registry}
    (same : ∀ path, r.forPath path = s.forPath path) (dialects : List Dialect) (path : String) :
    (r.registerAll dialects).forPath path = (s.registerAll dialects).forPath path := by
  rw [forPath_registerAll_iff, same, ← forPath_registerAll_iff]

/-- Registrations for different suffixes can be exchanged. -/
theorem forPath_register_comm (r : Registry) {d e : Dialect} (apart : d.Apart e) (path : String) :
    ((r.register d).register e).forPath path = ((r.register e).register d).forPath path := by
  simp only [forPath_register]
  by_cases serves : d.Serves (Path.parse path).suffix
  · rw [if_neg (apart.not_serves serves), if_pos serves, if_pos serves]
  · rw [if_neg serves, if_neg serves]

/-- After any history of registrations a path has the last dialect that was listed or registered
for its suffix, or else the fallback; and neighbouring registrations for different suffixes can
be exchanged. -/
theorem forPath_lastRegistered (initial : List Dialect) (fallback : Dialect) :
    (∀ (registered : List Dialect) (path : String) (chosen : Dialect),
        ((ofDialects initial fallback).registerAll registered).forPath path = chosen ↔
          Chooses (initial ++ registered) fallback (Path.parse path).suffix chosen) ∧
      ∀ (before : List Dialect) (d e : Dialect) (after : List Dialect), d.Apart e →
        ∀ path,
          ((ofDialects initial fallback).registerAll (before ++ d :: e :: after)).forPath path =
            ((ofDialects initial fallback).registerAll
              (before ++ e :: d :: after)).forPath path := by
  constructor
  · intro registered path chosen
    have listed : (ofDialects initial fallback).registerAll registered =
        registerAll { fallback } (initial ++ registered) := (registerAll_append _ _ _).symm
    rw [listed, forPath_registerAll_iff]
    rfl
  · intro before d e after apart path
    rw [registerAll_append, registerAll_append]
    exact forPath_registerAll_congr (forPath_register_comm _ apart) after path

/-- A dialect for files whose suffix is spelled in mixed case. -/
def ruby : Dialect := { Dialect.python with name := "ruby", extensions := [".rb", ".RAKE"] }

/-- A dialect that takes over a suffix of the built-in ones. -/
def typed : Dialect := { Dialect.javascript with name := "typed", extensions := [".TS", ".py"] }

example : ((standard.registerAll [ruby, typed]).forPath "app/a.test.Ts").name = "typed" := by
  decide +kernel

theorem forPath_lastRegistered_mixedCase :
    ruby.Apart typed ∧
      (standard.registerAll [ruby, typed]).forPath "tasks/db.Rake" =
        (standard.registerAll [typed, ruby]).forPath "tasks/db.Rake" := by
  have apart : ruby.Apart typed := by decide +kernel
  have exchange := (forPath_lastRegistered [.javascript, .python] .javascript).2
  exact ⟨apart, exchange [] ruby typed [] apart "tasks/db.Rake"⟩

end Registry

end Access

end EnvConcord

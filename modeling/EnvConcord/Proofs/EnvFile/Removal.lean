import EnvConcord.Proofs.EnvFile.Binding.Cut
import EnvConcord.Proofs.EnvFile.Reading

/-!
# Removing the bindings of keys

Removing keys one after the other takes out the bindings of all of them at once.  What a
text sets is put together from what the lines of its bindings set, so what is left after a
removal is what the lines of the kept bindings set.
-/

namespace EnvConcord.EnvFile

open Binding

/-- Whether a binding is kept when some keys are removed. -/
def isKept (removed : List String) (part : Binding) : Bool := !part.key.any removed.contains

/-- A text without the bindings of some keys. -/
def withoutKeys (removed : List String) (cs : List Char) : List Char :=
  joinKept (isKept removed) cs

theorem snd_removeKey (key : String) (cs : List Char) :
    (removeKey key cs).2 = joinKept (fun part => part.key != some key) cs := rfl

theorem isKept_iff (removed : List String) (part : Binding) :
    isKept removed part = true ↔ ∀ key, part.key = some key → key ∉ removed := by
  cases part_key : part.key <;> simp [isKept, part_key]

theorem isKept_cons (key : String) (removed : List String) (part : Binding) :
    isKept (key :: removed) part = (part.key != some key && isKept removed part) := by
  rw [Bool.eq_iff_iff, Bool.and_eq_true, isKept_iff, isKept_iff, bne_iff_ne]
  cases part.key <;> simp

@[simp]
theorem withoutKeys_nil (cs : List Char) : withoutKeys [] cs = cs := by
  have all : (bindings cs).filter (isKept []) = bindings cs := by
    rw [List.filter_eq_self]
    intro part _
    simp [isKept_iff]
  rw [withoutKeys, joinKept, all, flatMap_text_bindings]

theorem cr_not_mem_withoutKeys {cs : List Char} (cr : '\r' ∉ cs) (removed : List String) :
    '\r' ∉ withoutKeys removed cs := fun mem => cr (mem_of_mem_joinKept mem)

/-- Removing a key and then others is removing them all at once. -/
theorem withoutKeys_removeKey {cs : List Char} (cr : '\r' ∉ cs) (key : String)
    (removed : List String) :
    withoutKeys removed (removeKey key cs).2 = withoutKeys (key :: removed) cs := by
  rw [snd_removeKey, withoutKeys, joinKept, bindings_joinKept _ cr, List.filter_filter, withoutKeys,
    joinKept]
  congr 2
  funext part
  rw [isKept_cons, Bool.and_comm]

/-! ## Settings of bindings -/

/-- What a text sets is what the lines of its bindings set. -/
theorem settings_eq_flatMap {cs : List Char} (cr : '\r' ∉ cs) :
    settings cs = (bindings cs).flatMap fun part => settings part.text := by
  induction cs using binding_induction with
  | nil => rfl
  | cut text rest key nonempty split_eq ih =>
      have rest_cr : '\r' ∉ rest := fun mem => cr (List.mem_append_right _ mem)
      rw [bindings_append nonempty split_eq, List.flatMap_cons, ← ih rest_cr]
      by_cases empty : rest = []
      · subst empty
        rw [List.append_nil]
        exact (List.append_nil _).symm
      · have ends := endsLine_of_splitBinding cr empty (by rw [split_eq])
        obtain ⟨before, rfl⟩ : ∃ before, text = before ++ ['\n'] :=
          List.getLast?_eq_some_iff.1 ends
        have own : settings (before ++ ['\n']) = settings before := by
          rw [settings_append_break]
          exact List.append_nil _
        rw [List.append_assoc, List.singleton_append, settings_append_break, own]

/-- What is set after a removal is what the lines of the kept bindings set. -/
theorem settings_withoutKeys (removed : List String) {cs : List Char} (cr : '\r' ∉ cs) :
    settings (withoutKeys removed cs) =
      ((bindings cs).filter (isKept removed)).flatMap fun part => settings part.text := by
  rw [settings_eq_flatMap (cr_not_mem_withoutKeys cr removed), withoutKeys, bindings_joinKept _ cr]

/-- What is left after a removal sets nothing that was not set before. -/
theorem mem_settings_of_mem_settings_withoutKeys {removed : List String} {cs : List Char}
    (cr : '\r' ∉ cs) {pair : String × String} (mem : pair ∈ settings (withoutKeys removed cs)) :
    pair ∈ settings cs := by
  rw [settings_withoutKeys removed cr, List.mem_flatMap] at mem
  rcases mem with ⟨part, part_mem, mem⟩
  rw [settings_eq_flatMap cr, List.mem_flatMap]
  exact ⟨part, List.mem_of_mem_filter part_mem, mem⟩

/-- Removing some of the removed keys once more takes nothing out. -/
theorem withoutKeys_withoutKeys {removed fewer : List String} {cs : List Char} (cr : '\r' ∉ cs)
    (subset : ∀ key ∈ fewer, key ∈ removed) :
    withoutKeys fewer (withoutKeys removed cs) = withoutKeys removed cs := by
  have stay : ((bindings cs).filter (isKept removed)).filter (isKept fewer) =
      (bindings cs).filter (isKept removed) := by
    rw [List.filter_eq_self]
    intro part mem
    have kept := (isKept_iff removed part).1 (List.mem_filter.1 mem).2
    rw [isKept_iff]
    exact fun key part_key again => kept key part_key (subset key again)
  rw [withoutKeys, withoutKeys, joinKept, bindings_joinKept _ cr, stay, joinKept]

end EnvConcord.EnvFile

import EnvConcord.Proofs.EnvFile.Reading
import Mathlib.Data.List.Induction
import Mathlib.Data.Nat.Find

/-!
# Accounts of env files

A line that is neither blank nor a comment becomes an entry or a diagnostic, so the significant
lines of a file are as many as its entries and diagnostics together.  A key has the value and the
place of the last line that assigns to it, and what is complained of are the lines without a key
and the lines that assign to a key again.  All of this is kept when one more line is read.
-/

namespace EnvConcord.EnvFile

/-! ## Lines -/

/-- A line that is neither blank nor a comment. -/
def IsSignificant (line : List Char) : Prop :=
  Text.trim line ≠ [] ∧ (Text.trim line).head? ≠ some '#'

/-- A significant line assigns what stands behind its first `=` to the key in front of it. -/
structure Assigns (line : List Char) (key value : String) : Prop where
  significant : IsSignificant line
  cut : ∃ before after, line = before ++ '=' :: after ∧ '=' ∉ before ∧
    key.toList = dropExport (Text.trim before) ∧ value.toList = unquote after
  key_ne : key ≠ ""

/-- What is wrong with a line that comes after some other lines. -/
inductive Complains (earlier : List (List Char)) (line : List Char) : Diagnostic.Cause → Prop
  | missingEquals (absent : '=' ∉ line) : Complains earlier line .missingEquals
  | emptyKey {blanks after : List Char} (cut : line = blanks ++ '=' :: after)
      (blank : ∀ c ∈ blanks, Text.isBlank c = true) : Complains earlier line .emptyKey
  | duplicateKey {key value : String} (assigns : Assigns line key value)
      (known : ∃ other ∈ earlier, ∃ value, Assigns other key value) :
      Complains earlier line (.duplicateKey key)

theorem isSkipped_eq_false_iff (line : List Char) :
    isSkipped line = false ↔ IsSignificant line := by
  unfold isSkipped IsSignificant
  cases Text.trim line <;> simp

instance (line : List Char) : Decidable (IsSignificant line) :=
  decidable_of_iff _ (isSkipped_eq_false_iff line)

theorem setting?_eq_some_iff_assigns (line : List Char) (key value : String) :
    setting? line = some (key, value) ↔ Assigns line key value := by
  have key_ne_iff : key.toList ≠ [] ↔ key ≠ "" := by rw [ne_eq, String.toList_eq_nil_iff]
  rw [setting?_eq_some_iff, readLine_eq_assignment_iff, isSkipped_eq_false_iff, key_ne_iff]
  constructor
  · rintro ⟨significant, present, key_ne, key_eq, value_eq⟩
    obtain ⟨before, after, rfl, absent⟩ := List.eq_append_cons_of_mem present
    rw [Text.takeWhile_ne_append_cons absent] at key_eq
    rw [Text.dropWhile_ne_append_cons absent] at value_eq
    exact ⟨significant, ⟨before, after, rfl, absent, key_eq, value_eq⟩, key_ne⟩
  · rintro ⟨significant, ⟨before, after, rfl, absent, key_eq, value_eq⟩, key_ne⟩
    refine ⟨significant, by simp, key_ne, ?_, ?_⟩
    · rw [Text.takeWhile_ne_append_cons absent, key_eq]
    · rw [Text.dropWhile_ne_append_cons absent, value_eq]
      rfl

theorem Assigns.value_unique {line : List Char} {key value other : String}
    (assigns : Assigns line key value) (again : Assigns line key other) : value = other := by
  rw [← setting?_eq_some_iff_assigns] at assigns again
  exact congrArg Prod.snd (Option.some.inj (assigns.symm.trans again))

theorem isSignificant_append_equals (before after : List Char) :
    IsSignificant (before ++ '=' :: after) ↔ (Text.trim before).head? ≠ some '#' := by
  rw [← isSkipped_eq_false_iff, isSkipped_append_equals, beq_eq_false_iff_ne]

theorem readLine_eq_nothing_iff (line : List Char) :
    readLine line = .nothing ↔ ¬IsSignificant line := by
  by_cases present : '=' ∈ line
  · obtain ⟨before, after, rfl, absent⟩ := List.eq_append_cons_of_mem present
    rw [readLine_append_equals absent, isSignificant_append_equals, not_not]
    by_cases comment : (Text.trim before).head? = some '#'
    · simp [comment]
    · simp only [comment, if_false, iff_false]
      split <;> simp
  · rw [readLine_of_not_mem present, ← isSkipped_eq_false_iff]
    cases isSkipped line <;> simp

theorem readLine_eq_missingEquals_iff (line : List Char) :
    readLine line = .missingEquals ↔ IsSignificant line ∧ '=' ∉ line := by
  by_cases present : '=' ∈ line
  · obtain ⟨before, after, rfl, absent⟩ := List.eq_append_cons_of_mem present
    rw [readLine_append_equals absent]
    simp only [present, not_true_eq_false, and_false, iff_false]
    split
    · simp
    · split <;> simp
  · rw [readLine_of_not_mem present, ← isSkipped_eq_false_iff]
    cases isSkipped line <;> simp [present]

theorem readLine_eq_emptyKey_iff (line : List Char) :
    readLine line = .emptyKey ↔
      IsSignificant line ∧ ∃ blanks after, line = blanks ++ '=' :: after ∧
        ∀ c ∈ blanks, Text.isBlank c = true := by
  constructor
  · intro reading
    have present : '=' ∈ line := by
      by_contra absent
      rw [readLine_of_not_mem absent] at reading
      split at reading <;> contradiction
    obtain ⟨before, after, rfl, absent⟩ := List.eq_append_cons_of_mem present
    rw [readLine_append_equals absent] at reading
    split at reading
    next => contradiction
    next no_comment =>
        split at reading
        next empty =>
            refine ⟨(isSignificant_append_equals before after).2 no_comment, before, after, rfl, ?_⟩
            exact (Text.trim_eq_nil_iff before).1 empty
        next => contradiction
  · rintro ⟨-, blanks, after, rfl, blank⟩
    have absent : '=' ∉ blanks := fun mem => absurd (blank _ mem) (by decide)
    rw [readLine_append_equals absent, (Text.trim_eq_nil_iff blanks).2 blank]
    rfl

/-! ## One more line -/

/-- What is complained of on a line where some keys are known already. -/
def complaint? (known : List String) (line : List Char) : Option Diagnostic.Cause :=
  match readLine line with
  | .nothing => none
  | .missingEquals => some .missingEquals
  | .emptyKey => some .emptyKey
  | .assignment key _ =>
      if String.ofList key ∈ known then some (.duplicateKey (String.ofList key)) else none

theorem diagnostics_addReading (file : EnvFile) (number : Nat) (line : List Char) :
    (addReading file number (readLine line)).diagnostics =
      file.diagnostics ++
        ((complaint? file.entries.keys line).map (Diagnostic.mk number)).toList := by
  unfold complaint?
  cases readLine line with
  | nothing => simp [addReading]
  | missingEquals => rfl
  | emptyKey => rfl
  | assignment key value =>
      simp only [addReading, Dict.contains_iff_mem_keys]
      split <;> rfl

/-- Where the known keys are those of the lines before, the complaint is what is wrong with the
line. -/
theorem complaint?_eq_some_iff {known : List String} {earlier : List (List Char)}
    (known_iff : ∀ key, key ∈ known ↔ ∃ other ∈ earlier, ∃ value, Assigns other key value)
    (line : List Char) (cause : Diagnostic.Cause) :
    complaint? known line = some cause ↔ IsSignificant line ∧ Complains earlier line cause := by
  constructor
  · intro complaint
    unfold complaint? at complaint
    cases reading : readLine line with
    | nothing => simp [reading] at complaint
    | missingEquals =>
        obtain ⟨significant, absent⟩ := (readLine_eq_missingEquals_iff line).1 reading
        obtain rfl : Diagnostic.Cause.missingEquals = cause := by simpa [reading] using complaint
        exact ⟨significant, .missingEquals absent⟩
    | emptyKey =>
        obtain ⟨significant, blanks, after, cut, blank⟩ := (readLine_eq_emptyKey_iff line).1 reading
        obtain rfl : Diagnostic.Cause.emptyKey = cause := by simpa [reading] using complaint
        exact ⟨significant, .emptyKey cut blank⟩
    | assignment key value =>
        have assigns : Assigns line (String.ofList key) (String.ofList value) := by
          rw [← setting?_eq_some_iff_assigns, setting?_eq_some_iff, String.toList_ofList,
            String.toList_ofList]
          exact reading
        simp only [reading, Option.ite_none_right_eq_some, Option.some.injEq] at complaint
        obtain ⟨again, rfl⟩ := complaint
        exact ⟨assigns.significant, .duplicateKey assigns ((known_iff _).1 again)⟩
  · rintro ⟨significant, complains⟩
    cases complains with
    | missingEquals absent =>
        rw [complaint?, (readLine_eq_missingEquals_iff line).2 ⟨significant, absent⟩]
    | emptyKey cut blank =>
        rw [complaint?, (readLine_eq_emptyKey_iff line).2 ⟨significant, _, _, cut, blank⟩]
    | duplicateKey assigns again =>
        rw [← setting?_eq_some_iff_assigns, setting?_eq_some_iff] at assigns
        simp [complaint?, assigns, known_iff, again]

/-- What was read of a line is an entry more or a diagnostic more, unless the line says nothing. -/
theorem size_addReading (file : EnvFile) (number : Nat) (line : List Char) :
    (addReading file number (readLine line)).entries.toList.length +
        (addReading file number (readLine line)).diagnostics.length =
      file.entries.toList.length + file.diagnostics.length +
        if IsSignificant line then 1 else 0 := by
  by_cases significant : IsSignificant line
  · have speaks : readLine line ≠ .nothing :=
      mt (readLine_eq_nothing_iff line).1 (not_not.2 significant)
    rw [if_pos significant]
    cases reading : readLine line with
    | nothing => exact absurd reading speaks
    | missingEquals => simp [addReading, Nat.add_assoc]
    | emptyKey => simp [addReading, Nat.add_assoc]
    | assignment key value =>
        simp only [addReading, Dict.contains_iff_mem_keys, Dict.length_insert]
        split
        · simp [Nat.add_assoc]
        · simp [Nat.add_right_comm]
  · rw [(readLine_eq_nothing_iff line).2 significant, if_neg significant]
    rfl

theorem get?_addReading_of_assigns {line : List Char} {key value : String}
    (assigns : Assigns line key value) (file : EnvFile) (number : Nat) :
    (addReading file number (readLine line)).entries.get? key =
      some (.ofValue key value number) := by
  rw [entries_addReading, entriesFrom, (setting?_eq_some_iff_assigns line key value).2 assigns]
  simp only [entriesFrom, Dict.insertAll_cons, Dict.insertAll_nil, Dict.get?_insert, if_true]

theorem get?_addReading_of_silent {line : List Char} {key : String}
    (silent : ∀ value, ¬Assigns line key value) (file : EnvFile) (number : Nat) :
    (addReading file number (readLine line)).entries.get? key = file.entries.get? key := by
  rw [entries_addReading, entriesFrom]
  split
  next other value found =>
      have apart : key ≠ other := by
        rintro rfl
        exact silent value ((setting?_eq_some_iff_assigns line key value).1 found)
      simp only [entriesFrom, Dict.insertAll_cons, Dict.insertAll_nil, Dict.get?_insert, apart,
        if_false]
  next => rfl

theorem mem_keys_addReading_iff (file : EnvFile) (number : Nat) (line : List Char) (key : String) :
    key ∈ (addReading file number (readLine line)).entries.keys ↔
      key ∈ file.entries.keys ∨ ∃ value, Assigns line key value := by
  rw [entries_addReading, Dict.mem_keys_insertAll]
  simp only [← setting?_eq_some_iff_assigns, entriesFrom]
  cases found : setting? line with
  | none => simp
  | some pair => simp [Prod.ext_iff, eq_comm]

theorem keys_addReading_of_assigns {line : List Char} {key value : String}
    (assigns : Assigns line key value) (file : EnvFile) (number : Nat) :
    (addReading file number (readLine line)).entries.keys =
      if key ∈ file.entries.keys then file.entries.keys else file.entries.keys ++ [key] := by
  rw [entries_addReading, entriesFrom, (setting?_eq_some_iff_assigns line key value).2 assigns]
  simp only [entriesFrom, Dict.insertAll_cons, Dict.insertAll_nil, Dict.keys_insert]

theorem keys_addReading_of_silent {line : List Char} (silent : ∀ key value, ¬Assigns line key value)
    (file : EnvFile) (number : Nat) :
    (addReading file number (readLine line)).entries.keys = file.entries.keys := by
  rw [entries_addReading, entriesFrom]
  split
  next key value found =>
      exact absurd ((setting?_eq_some_iff_assigns line key value).1 found) (silent key value)
  next => rfl

/-! ## Places -/

/-- The line at a place assigns a value to a key. -/
def AssignsAt (lines : List (List Char)) (k : Nat) (key value : String) : Prop :=
  ∃ line, lines[k]? = some line ∧ Assigns line key value

/-- The line at a place is the first one that assigns to a key. -/
structure FirstAssigns (lines : List (List Char)) (k : Nat) (key : String) : Prop where
  assigns : ∃ value, AssignsAt lines k key value
  first : ∀ j < k, ∀ value, ¬AssignsAt lines j key value

/-- The line at a place is the last one that assigns to a key. -/
structure LastAssigns (lines : List (List Char)) (k : Nat) (key value : String) : Prop where
  assigns : AssignsAt lines k key value
  last : ∀ j > k, ∀ other, ¬AssignsAt lines j key other

/-- One key is assigned to before another one is. -/
def ComesBefore (lines : List (List Char)) (key other : String) : Prop :=
  ∃ k j, FirstAssigns lines k key ∧ FirstAssigns lines j other ∧ k < j

section Concat

variable (lines : List (List Char)) (line : List Char)

/-- Behind some lines and one more, a place is one of theirs or the last. -/
theorem exists_place_concat_iff (holds : Nat → List (List Char) → List Char → Prop) :
    (∃ k other, (lines ++ [line])[k]? = some other ∧ holds k ((lines ++ [line]).take k) other) ↔
      (∃ k other, lines[k]? = some other ∧ holds k (lines.take k) other) ∨
        holds lines.length lines line := by
  constructor
  · rintro ⟨k, other, at_k, held⟩
    rcases Nat.lt_trichotomy k lines.length with below | rfl | above
    · rw [List.getElem?_append_left below] at at_k
      rw [List.take_append_of_le_length below.le] at held
      exact Or.inl ⟨k, other, at_k, held⟩
    · rw [List.getElem?_concat_length, Option.some.injEq] at at_k
      rw [List.take_left, ← at_k] at held
      exact Or.inr held
    · rw [List.getElem?_eq_none (by simpa using Nat.succ_le_of_lt above)] at at_k
      contradiction
  · rintro (⟨k, other, at_k, held⟩ | held)
    · have below := (List.getElem?_eq_some_iff.1 at_k).1
      refine ⟨k, other, ?_, ?_⟩
      · rwa [List.getElem?_append_left below]
      · rwa [List.take_append_of_le_length below.le]
    · refine ⟨lines.length, line, List.getElem?_concat_length, ?_⟩
      rwa [List.take_left]

variable {k : Nat} {key value : String}

theorem assignsAt_concat_iff :
    AssignsAt (lines ++ [line]) k key value ↔
      AssignsAt lines k key value ∨ (lines.length = k ∧ Assigns line key value) := by
  have places := exists_place_concat_iff lines line fun j _ other => j = k ∧ Assigns other key value
  have at_place (all : List (List Char)) :
      (∃ j other, all[j]? = some other ∧ j = k ∧ Assigns other key value) ↔
        AssignsAt all k key value := by
    constructor
    · rintro ⟨_, other, at_k, rfl, assigns⟩
      exact ⟨other, at_k, assigns⟩
    · rintro ⟨other, at_k, assigns⟩
      exact ⟨k, other, at_k, rfl, assigns⟩
  rwa [at_place, at_place] at places

variable {lines line}

theorem AssignsAt.lt_length (assigns : AssignsAt lines k key value) : k < lines.length := by
  obtain ⟨other, at_k, -⟩ := assigns
  exact (List.getElem?_eq_some_iff.1 at_k).1

/-- A line that assigns to a key is the last one that does so; any other line leaves the last
one as it was. -/
theorem lastAssigns_concat_iff :
    LastAssigns (lines ++ [line]) k key value ↔
      (lines.length = k ∧ Assigns line key value) ∨
        (LastAssigns lines k key value ∧ ∀ other, ¬Assigns line key other) := by
  constructor
  · rintro ⟨assigns, last⟩
    simp only [assignsAt_concat_iff, not_or, not_and] at assigns last
    rcases assigns with earlier | here
    · refine Or.inr ⟨⟨earlier, fun j above other => (last j above other).1⟩, fun other => ?_⟩
      exact (last lines.length earlier.lt_length other).2 rfl
    · exact Or.inl here
  · rintro (⟨rfl, assigns⟩ | ⟨⟨earlier, last⟩, silent⟩)
    · refine ⟨(assignsAt_concat_iff lines line).2 (Or.inr ⟨rfl, assigns⟩), fun j above other => ?_⟩
      rw [assignsAt_concat_iff]
      rintro (before | ⟨rfl, -⟩)
      · exact absurd before.lt_length above.not_gt
      · exact lt_irrefl _ above
    · refine ⟨(assignsAt_concat_iff lines line).2 (Or.inl earlier), fun j above other => ?_⟩
      rw [assignsAt_concat_iff]
      rintro (later | ⟨-, assigns⟩)
      · exact last j above other later
      · exact silent other assigns

/-- The first line that assigns to a key stays the first one. -/
theorem FirstAssigns.concat (first : FirstAssigns lines k key) :
    FirstAssigns (lines ++ [line]) k key := by
  obtain ⟨⟨value, assigns⟩, none_before⟩ := first
  refine ⟨⟨value, (assignsAt_concat_iff lines line).2 (Or.inl assigns)⟩, fun j below other => ?_⟩
  rw [assignsAt_concat_iff]
  rintro (earlier | ⟨rfl, -⟩)
  · exact none_before j below other earlier
  · exact absurd below assigns.lt_length.not_gt

/-- A line that assigns to a new key is the first one that does so. -/
theorem firstAssigns_of_fresh (assigns : Assigns line key value)
    (fresh : ∀ j other, ¬AssignsAt lines j key other) :
    FirstAssigns (lines ++ [line]) lines.length key := by
  refine ⟨⟨value, (assignsAt_concat_iff lines line).2 (Or.inr ⟨rfl, assigns⟩)⟩, ?_⟩
  intro j below other
  rw [assignsAt_concat_iff]
  rintro (earlier | ⟨rfl, -⟩)
  · exact fresh j other earlier
  · exact lt_irrefl _ below

end Concat

/-! ## All lines -/

/-- What is read of some lines. -/
def ofLines (path : String) (lines : List (List Char)) : EnvFile := addLines { path } 1 lines

theorem ofLines_concat (path : String) (lines : List (List Char)) (line : List Char) :
    ofLines path (lines ++ [line]) =
      addReading (ofLines path lines) (lines.length + 1) (readLine line) := by
  rw [ofLines, addLines_append, Nat.add_comm 1]
  rfl

section Lines

variable (path : String) (lines : List (List Char))

/-- The significant lines are as many as the entries and the diagnostics. -/
theorem size_ofLines :
    (ofLines path lines).entries.toList.length + (ofLines path lines).diagnostics.length =
      lines.countP (IsSignificant ·) := by
  induction lines using List.reverseRecOn with
  | nil => rfl
  | append_singleton lines line ih =>
      rw [ofLines_concat, size_addReading, ih, List.countP_append, List.countP_singleton]
      simp

/-- A key has the value and the place of the last line that assigns to it. -/
theorem get?_ofLines_eq_some_iff (key : String) (entry : Entry) :
    (ofLines path lines).entries.get? key = some entry ↔
      ∃ k value, LastAssigns lines k key value ∧ entry = .ofValue key value (k + 1) := by
  induction lines using List.reverseRecOn with
  | nil =>
      constructor
      · intro found
        contradiction
      · rintro ⟨k, value, last, -⟩
        exact absurd last.assigns.lt_length (Nat.not_lt_zero k)
  | append_singleton lines line ih =>
      rw [ofLines_concat]
      simp only [lastAssigns_concat_iff]
      by_cases assigned : ∃ value, Assigns line key value
      · obtain ⟨value, assigns⟩ := assigned
        rw [get?_addReading_of_assigns assigns, Option.some.injEq]
        constructor
        · rintro rfl
          exact ⟨lines.length, value, Or.inl ⟨rfl, assigns⟩, rfl⟩
        · rintro ⟨k, other, ⟨rfl, again⟩ | ⟨-, silent⟩, rfl⟩
          · rw [assigns.value_unique again]
          · exact absurd assigns (silent value)
      · have silent : ∀ value, ¬Assigns line key value := not_exists.1 assigned
        rw [get?_addReading_of_silent silent, ih]
        simp [silent]

theorem mem_keys_ofLines_iff (key : String) :
    key ∈ (ofLines path lines).entries.keys ↔ ∃ k value, AssignsAt lines k key value := by
  induction lines using List.reverseRecOn with
  | nil =>
      constructor
      · intro known
        contradiction
      · rintro ⟨k, value, assigns⟩
        exact absurd assigns.lt_length (Nat.not_lt_zero k)
  | append_singleton lines line ih =>
      rw [ofLines_concat, mem_keys_addReading_iff, ih]
      simp only [assignsAt_concat_iff, exists_or, exists_and_left, exists_eq_left']

theorem exists_assignsAt_iff (key : String) :
    (∃ k value, AssignsAt lines k key value) ↔ ∃ line ∈ lines, ∃ value, Assigns line key value := by
  constructor
  · rintro ⟨k, value, line, at_k, assigns⟩
    exact ⟨line, List.mem_of_getElem? at_k, value, assigns⟩
  · rintro ⟨line, mem, value, assigns⟩
    obtain ⟨k, at_k⟩ := List.getElem?_of_mem mem
    exact ⟨k, value, line, at_k, assigns⟩

/-- A known key has a first line that assigns to it. -/
theorem exists_firstAssigns_of_mem_keys {key : String}
    (known : key ∈ (ofLines path lines).entries.keys) : ∃ k, FirstAssigns lines k key := by
  classical
  have assigned := (mem_keys_ofLines_iff path lines key).1 known
  refine ⟨Nat.find assigned, Nat.find_spec assigned, fun j below value assigns => ?_⟩
  exact Nat.find_min assigned below ⟨value, assigns⟩

/-- Keys come in the order of the first lines that assign to them. -/
theorem pairwise_comesBefore_keys_ofLines :
    (ofLines path lines).entries.keys.Pairwise (ComesBefore lines) := by
  induction lines using List.reverseRecOn with
  | nil => exact List.Pairwise.nil
  | append_singleton lines line ih =>
      have kept : (ofLines path lines).entries.keys.Pairwise (ComesBefore (lines ++ [line])) := by
        refine ih.imp ?_
        rintro key other ⟨k, j, first, second, less⟩
        exact ⟨k, j, first.concat, second.concat, less⟩
      rw [ofLines_concat]
      by_cases assigned : ∃ key value, Assigns line key value
      · obtain ⟨key, value, assigns⟩ := assigned
        rw [keys_addReading_of_assigns assigns]
        split
        next => exact kept
        next fresh =>
            rw [List.pairwise_append]
            refine ⟨kept, List.pairwise_singleton _ _, fun earlier known other here => ?_⟩
            obtain rfl := List.mem_singleton.1 here
            obtain ⟨k, first⟩ := exists_firstAssigns_of_mem_keys path lines known
            obtain ⟨_, at_k⟩ := first.assigns
            rw [mem_keys_ofLines_iff, not_exists] at fresh
            have second := firstAssigns_of_fresh assigns fun j other found => fresh j ⟨other, found⟩
            exact ⟨k, lines.length, first.concat, second, at_k.lt_length⟩
      · have silent : ∀ key value, ¬Assigns line key value := by simpa using assigned
        rwa [keys_addReading_of_silent silent]

/-- What is complained of is what is wrong with the significant lines. -/
theorem mem_diagnostics_ofLines_iff (d : Diagnostic) :
    d ∈ (ofLines path lines).diagnostics ↔
      ∃ k line, lines[k]? = some line ∧ d.line = k + 1 ∧ IsSignificant line ∧
        Complains (lines.take k) line d.cause := by
  induction lines using List.reverseRecOn with
  | nil =>
      constructor
      · intro mem
        contradiction
      · rintro ⟨k, line, at_k, -⟩
        simp at at_k
  | append_singleton lines line ih =>
      have known_iff (key : String) := (mem_keys_ofLines_iff path lines key).trans
        (exists_assignsAt_iff lines key)
      have places := exists_place_concat_iff lines line fun k earlier other =>
        d.line = k + 1 ∧ IsSignificant other ∧ Complains earlier other d.cause
      rw [places, ← ih, ofLines_concat, diagnostics_addReading, List.mem_append, Option.mem_toList,
        Option.map_eq_some_iff, ← complaint?_eq_some_iff known_iff]
      refine or_congr_right ⟨?_, ?_⟩
      · rintro ⟨cause, complaint, rfl⟩
        exact ⟨rfl, complaint⟩
      · rintro ⟨line_eq, complaint⟩
        exact ⟨d.cause, complaint, by rw [← line_eq]⟩

/-- Complaints come in the order of the lines, at most one for each. -/
theorem pairwise_line_diagnostics_ofLines :
    (ofLines path lines).diagnostics.Pairwise fun d e => d.line < e.line := by
  induction lines using List.reverseRecOn with
  | nil => exact List.Pairwise.nil
  | append_singleton lines line ih =>
      rw [ofLines_concat, diagnostics_addReading, List.pairwise_append]
      refine ⟨ih, ?_, fun d mem e here => ?_⟩
      · cases complaint? (ofLines path lines).entries.keys line with
        | none => exact List.Pairwise.nil
        | some cause => exact List.pairwise_singleton _ _
      · obtain ⟨k, _, at_k, line_eq, -⟩ := (mem_diagnostics_ofLines_iff path lines d).1 mem
        have below := (List.getElem?_eq_some_iff.1 at_k).1
        obtain ⟨cause, -, rfl⟩ := Option.map_eq_some_iff.1 (Option.mem_toList.1 here)
        simp only [line_eq]
        omega

end Lines

/-! ## Files -/

/-- A file that accounts for some lines: each significant one is an entry or a diagnostic; what is
complained of is what is wrong with them, in their order; and a key that is assigned to has the
value and the place of its last line, in the order of the first ones. -/
structure AccountsFor (lines : List (List Char)) (file : EnvFile) : Prop where
  size_eq : lines.countP (IsSignificant ·) = file.entries.toList.length + file.diagnostics.length
  ascending : file.diagnostics.Pairwise fun d e => d.line < e.line
  mem_diagnostics_iff : ∀ d, d ∈ file.diagnostics ↔
    ∃ k line, lines[k]? = some line ∧ d.line = k + 1 ∧ IsSignificant line ∧
      Complains (lines.take k) line d.cause
  isKey : ∀ key ∈ file.entries.keys, IsKey key.toList
  mem_keys_iff : ∀ key, key ∈ file.entries.keys ↔ ∃ line ∈ lines, ∃ value, Assigns line key value
  ordered : file.entries.keys.Pairwise (ComesBefore lines)
  get?_iff : ∀ key entry, file.entries.get? key = some entry ↔
    ∃ k value, LastAssigns lines k key value ∧
      entry = { key, value, isEmpty := value == "", line := k + 1 }

/-- No line of an env file is lost. -/
theorem parse_accountsFor (text path : String) :
    AccountsFor (Text.lines text.toList) (parse text path) where
  size_eq := (size_ofLines path _).symm
  ascending := pairwise_line_diagnostics_ofLines path _
  mem_diagnostics_iff := mem_diagnostics_ofLines_iff path _
  isKey := by
    intro key known
    obtain ⟨k, value, line, -, assigns⟩ := (mem_keys_ofLines_iff path _ key).1 known
    rw [← setting?_eq_some_iff_assigns, setting?_eq_some_iff] at assigns
    exact isKey_of_readLine assigns
  mem_keys_iff := fun key => (mem_keys_ofLines_iff path _ key).trans (exists_assignsAt_iff _ key)
  ordered := pairwise_comesBefore_keys_ofLines path _
  get?_iff := get?_ofLines_eq_some_iff path _

end EnvConcord.EnvFile

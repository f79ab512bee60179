import EnvConcord.Proofs.EnvFile.Binding.Reader

/-!
# Cutting off a binding

A binding ends with the line where reading its head stopped, whether it was read or not.
What follows a binding matters to it only by the characters that occur there.
-/

namespace EnvConcord.EnvFile.Binding

/-! ## Heads of bindings -/

/-- What follows a key: the key counts if its value was read, and reading stops behind the
value and a remark. -/
def readAssigned (key : Option String) (cs : List Char) : Option (Option String) × List Char :=
  match skipAssignment? (skipInner cs) with
  | none => (none, skipInner (skipInner cs).tail)
  | some rest => (some key, skipRemark rest)

/-- What a binding begins with: its key, if one was read together with its value, and
where reading stopped. -/
def readHead (cs : List Char) : Option (Option String) × List Char :=
  match readKey? (skipExport (cs.dropWhile Text.isBlank)) with
  | none => (none, skipExport (cs.dropWhile Text.isBlank))
  | some (key, rest) => readAssigned key rest

/-- Pass everything up to and with the end of the line. -/
def nextLine (cs : List Char) : List Char := skipLineEnd (toLineEnd cs)

theorem faultRest_eq (cs : List Char) : faultRest cs = (readHead cs).2 := by
  simp only [faultRest, readHead, readAssigned]
  cases readKey? (skipExport (cs.dropWhile Text.isBlank)) with
  | none => rfl
  | some found =>
      rcases found with ⟨key, rest⟩
      simp only
      generalize skipInner rest = inner
      cases skipAssignment? inner with
      | none => cases inner <;> rfl
      | some left => rfl

/-- Blanks within a line are no end of it. -/
theorem toLineEnd_skipInner (cs : List Char) : toLineEnd (skipInner cs) = toLineEnd cs := by
  induction cs with
  | nil => rfl
  | cons c rest ih =>
      cases blank : isInnerBlank c with
      | false => rw [skipInner, List.dropWhile_cons_of_neg (by simp [blank])]
      | true =>
          have inside : isLineEnd c = false := by
            simp only [isInnerBlank, Bool.and_eq_true, Bool.not_eq_true'] at blank
            exact blank.2
          rw [skipInner, List.dropWhile_cons_of_pos (by simp [blank]), ← skipInner, ih, toLineEnd,
            toLineEnd, List.dropWhile_cons_of_pos (by simp [inside])]

/-- A binding that is read ends at the end of the line where its head stopped. -/
theorem closeLine?_eq_some {cs left : List Char} (closed : closeLine? cs = some left) :
    left = nextLine cs := by
  rw [nextLine, ← toLineEnd_skipInner]
  unfold closeLine? at closed
  split at closed
  next inner =>
    obtain rfl := Option.some.inj closed
    rw [inner]
    rfl
  next c rest inner =>
    split at closed
    next line_end =>
      obtain rfl := Option.some.inj closed
      rw [inner, toLineEnd, List.dropWhile_cons_of_neg (by simp [line_end])]
    next => contradiction

/-- What is cut off is settled by the head of the binding: the rest begins behind the line
where reading stopped, and the key counts if nothing but blanks followed on that line. -/
theorem splitBinding_eq (cs : List Char) :
    splitBinding cs =
      (if (closeLine? (readHead cs).2).isSome then (readHead cs).1.join else none,
        nextLine (readHead cs).2) := by
  have failed_rest : skipLineEnd ((faultRest cs).dropWhile fun c => !isLineEnd c) =
      nextLine (readHead cs).2 := by rw [faultRest_eq]; rfl
  rw [splitBinding, failed_rest]
  by_cases blank : cs.dropWhile Text.isBlank = []
  · have head : readHead cs = (none, []) := by
      simp only [readHead, blank]
      rfl
    have read : readBinding? cs = some (none, []) := by
      simp only [readBinding?, blank]
      rfl
    rw [read, head]
    rfl
  · have nonempty : (cs.dropWhile Text.isBlank).isEmpty = false := by simpa using blank
    cases read : readKey? (skipExport (cs.dropWhile Text.isBlank)) with
    | none => simp [readBinding?, readHead, nonempty, read]
    | some found =>
        rcases found with ⟨key, rest⟩
        cases skipped : skipAssignment? (skipInner rest) with
        | none => simp [readBinding?, readHead, readAssigned, nonempty, read, skipped]
        | some left =>
            cases closed : closeLine? (skipRemark left) with
            | none => simp [readBinding?, readHead, readAssigned, nonempty, read, skipped, closed]
            | some behind =>
                simp [readBinding?, readHead, readAssigned, nonempty, read, skipped, closed,
                  closeLine?_eq_some closed]

/-! ## Locality -/

theorem readAssigned_suffix (key : Option String) (cs : List Char) :
    (readAssigned key cs).2 <:+ cs := by
  rw [readAssigned]
  cases skipped : skipAssignment? (skipInner cs) with
  | none => exact ((skipInner_suffix _).trans (List.tail_suffix _)).trans (skipInner_suffix cs)
  | some left =>
      exact ((skipRemark_suffix left).trans (skipAssignment?_suffix skipped)).trans
        (skipInner_suffix cs)

theorem readHead_suffix_dropWhile (cs : List Char) :
    (readHead cs).2 <:+ cs.dropWhile Text.isBlank := by
  rw [readHead]
  cases read : readKey? (skipExport (cs.dropWhile Text.isBlank)) with
  | none => exact skipExport_suffix _
  | some found =>
      exact ((readAssigned_suffix found.1 found.2).trans (readKey?_suffix read)).trans
        (skipExport_suffix _)

theorem readHead_suffix (cs : List Char) : (readHead cs).2 <:+ cs :=
  (readHead_suffix_dropWhile cs).trans (List.dropWhile_suffix _)

section Locality

variable {cs rest rest' line : List Char}

theorem EndsLine.of_suffix_append (line_ends : EndsLine line)
    (suffix : line ++ rest <:+ cs ++ rest) : EndsLine cs := by
  rcases suffix with ⟨before, eq⟩
  rw [← List.append_assoc, List.append_left_inj] at eq
  rw [← eq, EndsLine, List.getLast?_append_of_ne_nil _ line_ends.ne_nil]
  exact line_ends

/-- What is left of two texts, if a line of the first one is left. -/
theorem EndsLine.exists_append (line_ends : EndsLine line) (ends : EndsLine cs)
    {left : List Char} (suffix : left <:+ cs ++ rest) (longer : line ++ rest <:+ left) :
    ∃ tail, EndsLine tail ∧ left = tail ++ rest := by
  have lengths := longer.length_le
  have positive := List.length_pos_iff.2 line_ends.ne_nil
  rw [List.length_append] at lengths
  rcases exists_append_of_suffix suffix (by omega) with ⟨tail, nonempty, tail_suffix, left_eq⟩
  exact ⟨tail, ends.of_suffix tail_suffix nonempty, left_eq⟩

theorem readAssigned_append {key : Option String} (ends : EndsLine cs)
    (line_ends : EndsLine line) (known : ∀ c ∈ rest', c ∈ rest)
    (stopped : (readAssigned key (cs ++ rest)).2 = line ++ rest) :
    readAssigned key (cs ++ rest') = ((readAssigned key (cs ++ rest)).1, line ++ rest') := by
  have inner_local := lineLocal_skipInner ends
  have inner_ends := (inner_local rest).2
  rcases settled_skipAssignment? inner_ends known with ⟨still_fails, still_skips⟩
  simp only [readAssigned, (inner_local _).1] at stopped ⊢
  cases skipped : skipAssignment? (skipInner cs ++ rest) with
  | none =>
      have fails := unitReader_eq_none_iff.1 (still_fails (unitReader_eq_none_iff.2 skipped))
      rw [skipped] at stopped
      rw [fails]
      have equals : (skipInner cs).head? = some '=' := by
        by_contra bare
        rw [skipAssignment?_bare] at skipped
        · contradiction
        · rwa [List.head?_append_of_ne_nil _ inner_ends.ne_nil]
      have tail_ends := inner_ends.tail_of_head? equals (by decide)
      have tail_local := lineLocal_skipInner tail_ends
      simp only [List.tail_append_of_ne_nil inner_ends.ne_nil, (tail_local _).1,
        List.append_left_inj] at stopped ⊢
      rw [stopped]
  | some left =>
      rw [skipped] at stopped
      have left_suffix : line ++ rest <:+ left := stopped ▸ skipRemark_suffix left
      obtain ⟨tail, tail_ends, rfl⟩ :=
        line_ends.exists_append inner_ends (skipAssignment?_suffix skipped) left_suffix
      have skips := unitReader_eq_some_iff.1
        (still_skips () tail tail_ends.ne_nil (unitReader_eq_some_iff.2 skipped))
      have remark_local := lineLocal_skipRemark tail_ends
      rw [skips]
      simp only [(remark_local _).1, List.append_left_inj] at stopped ⊢
      rw [stopped]

/-- The head of a binding is read within its lines, whatever follows them. -/
theorem readHead_append (line_ends : EndsLine line) (known : ∀ c ∈ rest', c ∈ rest)
    (stopped : (readHead (cs ++ rest)).2 = line ++ rest) :
    readHead (cs ++ rest') = ((readHead (cs ++ rest)).1, line ++ rest') := by
  have ends := line_ends.of_suffix_append (stopped ▸ readHead_suffix (cs ++ rest))
  -- The head does not begin behind the lines, since it stops within them.
  have begins : ∃ c ∈ cs, Text.isBlank c = false := by
    by_contra blank
    have all : ∀ c ∈ cs, Text.isBlank c = true := by simpa using blank
    have body_suffix := readHead_suffix_dropWhile (cs ++ rest)
    rw [List.dropWhile_append_of_pos all, stopped] at body_suffix
    have shorter := (body_suffix.trans (List.dropWhile_suffix _)).length_le
    have positive := List.length_pos_iff.2 line_ends.ne_nil
    rw [List.length_append] at shorter
    omega
  rcases begins with ⟨c, mem, solid⟩
  have body_eq := fun after => (dropWhile_append_of_mem mem Text.isBlank solid after).1
  have body_ends : EndsLine (cs.dropWhile Text.isBlank) :=
    ends.of_suffix (List.dropWhile_suffix _) (dropWhile_append_of_mem mem _ solid []).2
  have export_local := lineLocal_skipExport body_ends
  have export_ends := (export_local rest).2
  rcases settled_readKey? export_ends known with ⟨still_unread, still_read⟩
  simp only [readHead, body_eq, (export_local _).1] at stopped ⊢
  cases read : readKey? (skipExport (cs.dropWhile Text.isBlank) ++ rest) with
  | none =>
      simp only [read, List.append_left_inj] at stopped
      rw [still_unread read]
      simp only [stopped]
  | some found =>
      rcases found with ⟨key, left⟩
      simp only [read] at stopped
      have left_suffix : line ++ rest <:+ left := stopped ▸ readAssigned_suffix key left
      obtain ⟨tail, tail_ends, rfl⟩ :=
        line_ends.exists_append export_ends (readKey?_suffix read) left_suffix
      rw [still_read key tail tail_ends.ne_nil read]
      exact readAssigned_append tail_ends line_ends known stopped

end Locality

/-! ## Lines -/

theorem not_isLineEnd_of_mem {line : List Char} (single : '\n' ∉ line) (cr : '\r' ∉ line) :
    ∀ c ∈ line, (!isLineEnd c) = true := by
  intro c mem
  simp only [isLineEnd, Bool.not_eq_true', Bool.or_eq_false_iff, beq_eq_false_iff_ne]
  constructor
  · rintro rfl
    exact single mem
  · rintro rfl
    exact cr mem

/-- Without carriage returns, the next line begins behind the first line feed. -/
theorem nextLine_append_break {line : List Char} (single : '\n' ∉ line) (cr : '\r' ∉ line)
    (rest : List Char) : nextLine (line ++ '\n' :: rest) = rest := by
  rw [nextLine, toLineEnd, List.dropWhile_append_of_pos (not_isLineEnd_of_mem single cr),
    List.dropWhile_cons_of_neg (by decide)]
  rfl

theorem nextLine_of_not_mem {line : List Char} (single : '\n' ∉ line) (cr : '\r' ∉ line) :
    nextLine line = [] := by
  rw [nextLine, toLineEnd, List.dropWhile_eq_nil_iff.2 (not_isLineEnd_of_mem single cr)]
  rfl

/-- A part of a text from which the next line is not empty holds the rest of its line. -/
theorem exists_line_of_nextLine {cs rest : List Char} (cr : '\r' ∉ cs) (nonempty : rest ≠ [])
    (next : nextLine cs = rest) :
    ∃ line, EndsLine line ∧ cs = line ++ rest ∧ ∀ after, nextLine (line ++ after) = after := by
  by_cases mem : '\n' ∈ cs
  · rcases List.eq_append_cons_of_mem mem with ⟨line, after, rfl, single⟩
    have line_cr : '\r' ∉ line := fun there => cr (List.mem_append_left _ there)
    have next_eq := nextLine_append_break single line_cr
    rw [next_eq] at next
    subst next
    refine ⟨line ++ ['\n'], endsLine_append_break line, by simp, fun other => ?_⟩
    rw [List.append_assoc]
    exact next_eq other
  · rw [nextLine_of_not_mem mem cr] at next
    exact absurd next.symm nonempty

theorem isSome_closeLine? (cs : List Char) :
    (closeLine? cs).isSome = (skipInner cs).head?.all isLineEnd := by
  unfold closeLine?
  split
  next inner => simp [inner]
  next c rest inner =>
    rw [inner]
    split
    next line_end => simp [line_end]
    next other => simp [other]

/-- A binding that does not reach the end of the text stops within a line of its own. -/
theorem exists_line_of_splitBinding {cs rest : List Char} (cr : '\r' ∉ cs ++ rest)
    (nonempty : rest ≠ []) (split_eq : (splitBinding (cs ++ rest)).2 = rest) :
    ∃ line, EndsLine line ∧ (readHead (cs ++ rest)).2 = line ++ rest ∧
      ∀ after, nextLine (line ++ after) = after := by
  rw [splitBinding_eq] at split_eq
  exact exists_line_of_nextLine (fun mem => cr ((readHead_suffix (cs ++ rest)).subset mem))
    nonempty split_eq

/-- Such a binding ends with a line. -/
theorem endsLine_of_splitBinding {cs rest : List Char} (cr : '\r' ∉ cs ++ rest)
    (nonempty : rest ≠ []) (split_eq : (splitBinding (cs ++ rest)).2 = rest) : EndsLine cs := by
  rcases exists_line_of_splitBinding cr nonempty split_eq with ⟨line, line_ends, stopped, -⟩
  exact line_ends.of_suffix_append (stopped ▸ readHead_suffix (cs ++ rest))

/-- Whether a binding is closed is settled within its lines. -/
theorem isSome_closeLine?_append {line : List Char} (line_ends : EndsLine line)
    (rest rest' : List Char) :
    (closeLine? (line ++ rest')).isSome = (closeLine? (line ++ rest)).isSome := by
  have inner_local := lineLocal_skipInner line_ends
  have inner_ends := (inner_local rest).2
  rw [isSome_closeLine?, isSome_closeLine?, (inner_local rest).1, (inner_local rest').1,
    List.head?_append_of_ne_nil _ inner_ends.ne_nil,
    List.head?_append_of_ne_nil _ inner_ends.ne_nil]

/-- With other text made of the same characters behind it, the same binding is cut off. -/
theorem splitBinding_append {cs rest rest' : List Char} (cr : '\r' ∉ cs ++ rest)
    (known : ∀ c ∈ rest', c ∈ rest) (split_eq : (splitBinding (cs ++ rest)).2 = rest) :
    splitBinding (cs ++ rest') = ((splitBinding (cs ++ rest)).1, rest') := by
  by_cases empty : rest = []
  · subst empty
    obtain rfl : rest' = [] := List.eq_nil_iff_forall_not_mem.2 fun c mem =>
      List.not_mem_nil (known c mem)
    exact Prod.ext rfl split_eq
  · rcases exists_line_of_splitBinding cr empty split_eq with ⟨line, line_ends, stopped, next⟩
    rw [splitBinding_eq, splitBinding_eq, readHead_append line_ends known stopped, stopped,
      isSome_closeLine?_append line_ends rest rest', next]

theorem skipLineEnd_suffix (cs : List Char) : skipLineEnd cs <:+ cs := by
  unfold skipLineEnd
  split
  next rest => exact (List.suffix_cons _ rest).trans (List.suffix_cons _ _)
  next c rest _ =>
    split
    next => exact List.suffix_cons c rest
    next => exact List.suffix_rfl
  next => exact List.suffix_rfl

theorem nextLine_suffix (cs : List Char) : nextLine cs <:+ cs :=
  (skipLineEnd_suffix _).trans (toLineEnd_suffix cs)

theorem length_nextLine_lt {cs : List Char} (nonempty : cs ≠ []) :
    (nextLine cs).length < cs.length := by
  have whole := (toLineEnd_suffix cs).length_le
  have positive := List.length_pos_iff.2 nonempty
  rw [nextLine]
  cases line_eq : toLineEnd cs with
  | nil => simpa [skipLineEnd] using positive
  | cons c rest =>
      have stop := List.head?_dropWhile_not (fun c => !isLineEnd c) cs
      rw [← toLineEnd, line_eq] at stop
      have line_end : isLineEnd c = true := by simpa using stop
      rw [line_eq, List.length_cons] at whole
      unfold skipLineEnd
      split
      next inner eq =>
        rcases List.cons.inj eq with ⟨-, rfl⟩
        simp only [List.length_cons] at whole
        omega
      next d inner _ eq =>
        rcases List.cons.inj eq with ⟨rfl, rfl⟩
        rw [if_pos line_end]
        omega
      next eq => contradiction

theorem splitBinding_suffix (cs : List Char) : (splitBinding cs).2 <:+ cs := by
  rw [splitBinding_eq]
  exact (nextLine_suffix _).trans (readHead_suffix cs)

/-- Cutting off a binding takes something away. -/
theorem length_splitBinding_lt {cs : List Char} (nonempty : cs ≠ []) :
    (splitBinding cs).2.length < cs.length := by
  have head := (readHead_suffix cs).length_le
  rw [splitBinding_eq]
  by_cases empty : (readHead cs).2 = []
  · rw [empty]
    exact List.length_pos_iff.2 nonempty
  · exact lt_of_lt_of_le (length_nextLine_lt empty) head

end EnvConcord.EnvFile.Binding

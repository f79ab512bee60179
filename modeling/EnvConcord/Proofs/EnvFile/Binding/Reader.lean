import EnvConcord.Proofs.EnvFile.Binding.Line

/-!
# Keys and values of bindings

Quoted keys and values may go over several lines, so reading them can depend on the text
behind some lines.  It does so only by the quotes in that text: a reader that stops within
the lines stops there whenever no other characters are put behind them.
-/

namespace EnvConcord.EnvFile.Binding

/-! ## Quotes -/

section Quotes

variable {quote : Char}

theorem closeQuote?_escaped (rest : List Char) :
    closeQuote? quote ('\\' :: quote :: rest) =
      (closeQuote? quote rest).orElse fun _ => some rest := by
  simp [closeQuote?]

theorem closeQuote?_backslash {c : Char} (other : c ≠ quote) (rest : List Char) :
    closeQuote? quote ('\\' :: c :: rest) = closeQuote? quote (c :: rest) := by
  simp [closeQuote?, other]

theorem closeQuote?_cons {c : Char} (plain : c ≠ '\\') (rest : List Char) :
    closeQuote? quote (c :: rest) =
      if c = quote then some rest else closeQuote? quote rest := by
  rw [closeQuote?.eq_3]
  rintro d tail rfl
  contradiction

/-- A quoted value is not closed exactly if no such quote follows. -/
theorem closeQuote?_eq_none_iff (plain : quote ≠ '\\') (cs : List Char) :
    closeQuote? quote cs = none ↔ quote ∉ cs := by
  induction cs using closeQuote?.induct quote with
  | case1 => simp [closeQuote?]
  | case2 rest ih =>
      rw [closeQuote?_escaped]
      cases closeQuote? quote rest <;> simp
  | case3 c rest other ih =>
      rw [closeQuote?_backslash other, ih]
      simp [plain]
  | case4 rest _ => simp [closeQuote?_cons plain]
  | case5 c rest bare other ih =>
      have step : closeQuote? quote (c :: rest) = closeQuote? quote rest := by
        rw [closeQuote?.eq_3 _ _ _ bare, if_neg other]
      rw [step, ih]
      simp [Ne.symm other]

theorem closeQuote?_suffix {cs left : List Char} (closed : closeQuote? quote cs = some left) :
    left <:+ cs := by
  induction cs using closeQuote?.induct quote with
  | case1 => simp [closeQuote?] at closed
  | case2 rest ih =>
      have shorter : rest <:+ '\\' :: quote :: rest :=
        (List.suffix_cons quote rest).trans (List.suffix_cons _ _)
      rw [closeQuote?_escaped] at closed
      cases later : closeQuote? quote rest with
      | some _ => exact (ih (later.trans (by simpa [later] using closed))).trans shorter
      | none =>
          obtain rfl : rest = left := by simpa [later] using closed
          exact shorter
  | case3 c rest other ih =>
      rw [closeQuote?_backslash other] at closed
      exact (ih closed).trans (List.suffix_cons _ _)
  | case4 rest bare =>
      rw [closeQuote?.eq_3 _ _ _ bare, if_pos rfl] at closed
      obtain rfl := Option.some.inj closed
      exact List.suffix_cons quote rest
  | case5 c rest bare other ih =>
      rw [closeQuote?.eq_3 _ _ _ bare, if_neg other] at closed
      exact (ih closed).trans (List.suffix_cons c rest)

/-- What follows a value closed within some lines depends on the text behind them only by
the quotes in it. -/
theorem closeQuote?_append (plain : quote ≠ '\\') (single : quote ≠ '\n')
    {cs rest rest' tail : List Char} (ends : EndsLine cs) (known : quote ∈ rest' → quote ∈ rest)
    (nonempty : tail ≠ []) (closed : closeQuote? quote (cs ++ rest) = some (tail ++ rest)) :
    closeQuote? quote (cs ++ rest') = some (tail ++ rest') := by
  induction cs using closeQuote?.induct quote with
  | case1 => contradiction
  | case2 inner ih =>
      have inner_ends : EndsLine inner := (ends.tail (by decide)).tail single
      simp only [List.cons_append, closeQuote?_escaped] at closed ⊢
      cases later : closeQuote? quote (inner ++ rest) with
      | some left =>
          rw [later] at closed
          rw [ih inner_ends (later.trans closed)]
          rfl
      | none =>
          rw [later] at closed
          obtain rfl : inner = tail := by simpa using closed
          rw [closeQuote?_eq_none_iff plain, List.mem_append, not_or] at later
          have still : closeQuote? quote (inner ++ rest') = none := by
            rw [closeQuote?_eq_none_iff plain, List.mem_append, not_or]
            exact ⟨later.1, fun mem => later.2 (known mem)⟩
          rw [still]
          rfl
  | case3 c inner other ih =>
      simp only [List.cons_append, closeQuote?_backslash other] at closed ⊢
      exact ih (ends.tail (by decide)) closed
  | case4 inner bare =>
      simp only [List.cons_append, closeQuote?_cons plain, if_true, Option.some.injEq,
        List.append_left_inj] at closed ⊢
      exact closed
  | case5 c inner bare other ih =>
      have escape : c ≠ '\\' := by
        rintro rfl
        cases inner with
        | nil => simp [EndsLine] at ends
        | cons d inner => exact bare d inner rfl rfl
      simp only [List.cons_append, closeQuote?_cons escape, other, if_false] at closed ⊢
      refine ih (ends.of_suffix (List.suffix_cons c inner) ?_) closed
      -- A value that is closed behind the lines leaves less than what is behind them.
      rintro rfl
      have shorter := (closeQuote?_suffix closed).length_le
      have longer := List.length_pos_iff.2 nonempty
      simp only [List.nil_append, List.length_append] at shorter
      omega

end Quotes

/-! ## Keys and values -/

theorem readKey?_quoted (cs : List Char) :
    readKey? ('\'' :: cs) =
      match cs.dropWhile (· != '\'') with
      | _ :: after =>
          if (cs.takeWhile (· != '\'')).isEmpty then none
          else some (some (String.ofList (cs.takeWhile (· != '\''))), after)
      | [] => none := rfl

theorem readKey?_bare {cs : List Char} (no_comment : cs.head? ≠ some '#')
    (no_quote : cs.head? ≠ some '\'') :
    readKey? cs =
      if (cs.takeWhile isKeyChar).isEmpty then none
      else some (some (String.ofList (cs.takeWhile isKeyChar)), cs.dropWhile isKeyChar) := by
  unfold readKey?
  split
  next => simp at no_comment
  next => simp at no_quote
  next => rfl

theorem readKey?_suffix {cs left : List Char} {key : Option String}
    (read : readKey? cs = some (key, left)) : left <:+ cs := by
  unfold readKey? at read
  split at read
  next =>
    obtain ⟨-, rfl⟩ := by simpa using read
    exact List.suffix_rfl
  next rest =>
    simp only at read
    split at read
    next first after dropped =>
      split at read
      next => contradiction
      next =>
        obtain ⟨-, rfl⟩ := by simpa using read
        have shorter : first :: after <:+ rest := dropped ▸ List.dropWhile_suffix _
        exact ((List.suffix_cons first after).trans shorter).trans (List.suffix_cons _ rest)
    next => contradiction
  next =>
    simp only at read
    split at read
    next => contradiction
    next =>
      obtain ⟨-, rfl⟩ := by simpa using read
      exact List.dropWhile_suffix _

section Append

variable {α : Type*} {cs rest rest' : List Char}

/-- A reader settled within some lines: with other text behind them it fails where it
failed, and if it stopped within them, it stops there again with the same result. -/
def Settled (read : List Char → Option (α × List Char)) (cs rest rest' : List Char) : Prop :=
  (read (cs ++ rest) = none → read (cs ++ rest') = none) ∧
    ∀ value tail, tail ≠ [] → read (cs ++ rest) = some (value, tail ++ rest) →
      read (cs ++ rest') = some (value, tail ++ rest')

/-- A reader is settled where its result does not depend on what follows at all. -/
theorem settled_of_forall {read : List Char → Option (α × List Char)}
    (result : Option (α × List Char))
    (read_eq : ∀ after, read (cs ++ after) = result.map fun found => (found.1, found.2 ++ after)) :
    Settled read cs rest rest' := by
  rw [Settled, read_eq, read_eq]
  constructor
  · simp
  · rintro value tail - found
    rcases Option.map_eq_some_iff.1 found with ⟨⟨value', tail'⟩, rfl, found_eq⟩
    rcases Prod.mk.inj found_eq with ⟨rfl, left_eq⟩
    obtain rfl := List.append_cancel_right left_eq
    rfl

/-- A key in quotes that closes within its lines is read there. -/
theorem settled_readKey?_closed (closed : '\'' ∈ cs) :
    Settled readKey? ('\'' :: cs) rest rest' := by
  apply settled_of_forall (readKey? ('\'' :: cs))
  intro after
  rcases dropWhile_append_of_mem closed (· != '\'') (by simp) after with ⟨drop_eq, nonempty⟩
  have take_eq := takeWhile_append_of_mem closed (· != '\'') (by simp) after
  rw [List.cons_append, readKey?_quoted, readKey?_quoted, drop_eq, take_eq]
  cases dropped : cs.dropWhile (· != '\'') with
  | nil => exact absurd dropped nonempty
  | cons first left =>
      simp only [List.cons_append]
      split <;> rfl

theorem ne_quote_of_not_mem (open_key : '\'' ∉ cs) : ∀ c ∈ cs, (c != '\'') = true := by
  intro c mem
  rw [bne_iff_ne]
  rintro rfl
  exact open_key mem

theorem readKey?_eq_none_of_not_mem (open_key : '\'' ∉ cs) : readKey? ('\'' :: cs) = none := by
  have all := List.dropWhile_eq_nil_iff.2 (ne_quote_of_not_mem open_key)
  rw [readKey?_quoted, all]

/-- A key in quotes that closes behind its lines leaves less than what stands there. -/
theorem exists_readKey?_of_mem_rest (nonempty : cs ≠ []) (open_key : '\'' ∉ cs)
    (closed : '\'' ∈ rest) :
    ∃ key left, readKey? ('\'' :: cs ++ rest) = some (key, left) ∧
      left.length < rest.length := by
  have inside := ne_quote_of_not_mem open_key
  have drop_eq : (cs ++ rest).dropWhile (· != '\'') = rest.dropWhile (· != '\'') :=
    List.dropWhile_append_of_pos inside
  have take_eq : (cs ++ rest).takeWhile (· != '\'') = cs ++ rest.takeWhile (· != '\'') :=
    List.takeWhile_append_of_pos inside
  rcases dropWhile_append_of_mem closed (· != '\'') (by simp) [] with ⟨-, found⟩
  rcases List.exists_cons_of_ne_nil found with ⟨first, left, dropped⟩
  have shorter := (dropped ▸ List.dropWhile_suffix (· != '\'') : first :: left <:+ rest)
  refine ⟨some (String.ofList (cs ++ rest.takeWhile (· != '\''))), left, ?_,
    shorter.length_le⟩
  rw [List.cons_append, readKey?_quoted, drop_eq, dropped, take_eq]
  simp [nonempty]

/-- A key in quotes is read within its lines, or it is never closed. -/
theorem settled_readKey?_quoted (ends : EndsLine cs) (known : ∀ c ∈ rest', c ∈ rest) :
    Settled readKey? ('\'' :: cs) rest rest' := by
  by_cases closed : '\'' ∈ cs
  · exact settled_readKey?_closed closed
  · by_cases mem : '\'' ∈ rest
    · rcases exists_readKey?_of_mem_rest ends.ne_nil closed mem with ⟨key, left, read, shorter⟩
      constructor
      · intro unread
        rw [read] at unread
        contradiction
      · intro value tail _ found
        rw [read] at found
        obtain ⟨-, rfl⟩ := by simpa using found
        rw [List.length_append] at shorter
        omega
    · have unread : ∀ after, '\'' ∉ after → readKey? ('\'' :: cs ++ after) = none := by
        intro after absent
        exact readKey?_eq_none_of_not_mem (by simp [closed, absent])
      constructor
      · intro _
        exact unread rest' fun there => mem (known '\'' there)
      · intro value tail _ found
        rw [unread rest mem] at found
        contradiction

/-- The key of a binding is read within its lines, whatever follows them. -/
theorem settled_readKey? (ends : EndsLine cs) (known : ∀ c ∈ rest', c ∈ rest) :
    Settled readKey? cs rest rest' := by
  rcases List.exists_cons_of_ne_nil ends.ne_nil with ⟨first, inner, rfl⟩
  by_cases comment : first = '#'
  · subst comment
    exact settled_of_forall (some (none, '#' :: inner)) fun after => rfl
  · by_cases quote : first = '\''
    · subst quote
      exact settled_readKey?_quoted (ends.tail (by decide)) known
    · apply settled_of_forall (readKey? (first :: inner))
      intro after
      have stop : isKeyChar '\n' = false := by decide
      rcases dropWhile_append_of_mem ends.mem isKeyChar stop after with ⟨drop_eq, -⟩
      have take_eq := takeWhile_append_of_mem ends.mem isKeyChar stop after
      rw [readKey?_bare (by simpa using comment) (by simpa using quote),
        readKey?_bare (by simpa using comment) (by simpa using quote), drop_eq, take_eq]
      split <;> rfl

/-! ## Values -/

theorem skipValue?_quote {quote : Char} (quoted : quote = '\'' ∨ quote = '"') (cs : List Char) :
    skipValue? (quote :: cs) = closeQuote? quote cs := by
  rcases quoted with rfl | rfl <;> rfl

theorem skipValue?_bare {cs : List Char} (no_single : cs.head? ≠ some '\'')
    (no_double : cs.head? ≠ some '"') : skipValue? cs = some (toLineEnd cs) := by
  unfold skipValue?
  split
  next => simp at no_single
  next => simp at no_double
  next => rfl

theorem skipValue?_suffix {cs left : List Char} (skipped : skipValue? cs = some left) :
    left <:+ cs := by
  unfold skipValue? at skipped
  split at skipped
  next => exact (closeQuote?_suffix skipped).trans (List.suffix_cons _ _)
  next => exact (closeQuote?_suffix skipped).trans (List.suffix_cons _ _)
  next =>
    obtain rfl := Option.some.inj skipped
    exact toLineEnd_suffix _

/-- A step that may fail, as a reader without a result. -/
def unitReader (skip : List Char → Option (List Char)) (cs : List Char) :
    Option (Unit × List Char) :=
  (skip cs).map fun left => ((), left)

theorem unitReader_eq_some_iff {skip : List Char → Option (List Char)} {value : Unit}
    {left : List Char} : unitReader skip cs = some (value, left) ↔ skip cs = some left := by
  simp [unitReader]

theorem unitReader_eq_none_iff {skip : List Char → Option (List Char)} :
    unitReader skip cs = none ↔ skip cs = none := by
  simp [unitReader]

theorem settled_closeQuote? {quote : Char} (quoted : quote = '\'' ∨ quote = '"')
    (ends : EndsLine cs) (known : ∀ c ∈ rest', c ∈ rest) :
    Settled (unitReader (closeQuote? quote)) cs rest rest' := by
  have plain : quote ≠ '\\' := by rcases quoted with rfl | rfl <;> decide
  have single : quote ≠ '\n' := by rcases quoted with rfl | rfl <;> decide
  constructor
  · intro unclosed
    rw [unitReader_eq_none_iff, closeQuote?_eq_none_iff plain, List.mem_append, not_or]
      at unclosed ⊢
    exact ⟨unclosed.1, fun mem => unclosed.2 (known quote mem)⟩
  · intro value tail nonempty closed
    rw [unitReader_eq_some_iff] at closed ⊢
    exact closeQuote?_append plain single ends (known quote) nonempty closed

theorem settled_skipValue? (ends : EndsLine cs) (known : ∀ c ∈ rest', c ∈ rest) :
    Settled (unitReader skipValue?) cs rest rest' := by
  rcases List.exists_cons_of_ne_nil ends.ne_nil with ⟨first, inner, rfl⟩
  by_cases quoted : first = '\'' ∨ first = '"'
  · have feed : first ≠ '\n' := by rcases quoted with rfl | rfl <;> decide
    have inner_settled := settled_closeQuote? quoted (ends.tail feed) known
    simpa only [Settled, unitReader, List.cons_append, skipValue?_quote quoted] using inner_settled
  · rw [not_or] at quoted
    apply settled_of_forall (some ((), toLineEnd (first :: inner)))
    intro after
    rw [unitReader, skipValue?_bare (by simpa using quoted.1) (by simpa using quoted.2),
      (lineLocal_toLineEnd ends after).1]
    rfl

theorem skipAssignment?_equals (cs : List Char) :
    skipAssignment? ('=' :: cs) = skipValue? (skipInner cs) := rfl

theorem skipAssignment?_bare {cs : List Char} (no_equals : cs.head? ≠ some '=') :
    skipAssignment? cs = some cs := by
  unfold skipAssignment?
  split
  next => simp at no_equals
  next => rfl

theorem skipAssignment?_suffix {cs left : List Char} (skipped : skipAssignment? cs = some left) :
    left <:+ cs := by
  unfold skipAssignment? at skipped
  split at skipped
  next rest =>
    exact ((skipValue?_suffix skipped).trans (skipInner_suffix rest)).trans (List.suffix_cons _ _)
  next =>
    obtain rfl := Option.some.inj skipped
    exact List.suffix_rfl

theorem settled_skipAssignment? (ends : EndsLine cs) (known : ∀ c ∈ rest', c ∈ rest) :
    Settled (unitReader skipAssignment?) cs rest rest' := by
  rcases List.exists_cons_of_ne_nil ends.ne_nil with ⟨first, inner, rfl⟩
  by_cases equals : first = '='
  · subst equals
    have inner_local := lineLocal_skipInner (ends.tail (by decide))
    have value_settled := settled_skipValue? (inner_local rest).2 known
    simpa only [Settled, unitReader, List.cons_append, skipAssignment?_equals,
      (inner_local _).1] using value_settled
  · apply settled_of_forall (some ((), first :: inner))
    intro after
    rw [unitReader, skipAssignment?_bare (by simpa using equals)]
    rfl

end Append

end EnvConcord.EnvFile.Binding

/-!
# Splitting and joining texts

A text is cut at every occurrence of a separating character, so a text with
`n` separators has `n + 1` pieces; joining puts the separators back.
-/

namespace EnvConcord.Text

/-- Cut a text at every occurrence of `separator`. -/
def splitAt (separator : Char) : List Char → List (List Char)
  | [] => [[]]
  | c :: rest =>
      if c = separator then [] :: splitAt separator rest
      else
        match splitAt separator rest with
        | [] => [[c]]
        | piece :: pieces => (c :: piece) :: pieces

/-- The lines of a text; a final line break leaves an empty last line. -/
def lines (cs : List Char) : List (List Char) := splitAt '\n' cs

/-- Put a separator between consecutive pieces. -/
def joinWith (separator : List Char) : List (List Char) → List Char
  | [] => []
  | [piece] => piece
  | piece :: pieces => piece ++ separator ++ joinWith separator pieces

/-- Cutting never yields the empty list of pieces. -/
theorem splitAt_ne_nil (separator : Char) (cs : List Char) : splitAt separator cs ≠ [] := by
  cases cs with
  | nil => simp [splitAt]
  | cons c rest =>
      unfold splitAt
      split
      · simp
      · split <;> simp

/-- Joining the pieces with the separator restores the text. -/
theorem joinWith_splitAt (separator : Char) (cs : List Char) :
    joinWith [separator] (splitAt separator cs) = cs := by
  induction cs with
  | nil => rfl
  | cons c rest ih =>
      unfold splitAt
      split
      next here =>
          subst here
          cases pieces : splitAt c rest with
          | nil => exact absurd pieces (splitAt_ne_nil c rest)
          | cons piece others => simp [joinWith, ← pieces, ih]
      next =>
          split
          next pieces => exact absurd pieces (splitAt_ne_nil separator rest)
          next piece others pieces =>
              rw [pieces] at ih
              cases others with
              | nil => simpa [joinWith] using ih
              | cons next others => simpa [joinWith] using ih

/-- No piece holds the separator. -/
theorem not_mem_of_mem_splitAt (separator : Char) (cs piece : List Char)
    (mem : piece ∈ splitAt separator cs) : separator ∉ piece := by
  induction cs generalizing piece with
  | nil => simp_all [splitAt]
  | cons c rest ih =>
      unfold splitAt at mem
      split at mem
      · rcases List.mem_cons.1 mem with rfl | mem
        · simp
        · exact ih _ mem
      next other =>
          split at mem
          · rw [List.mem_singleton] at mem
            subst mem
            simpa [eq_comm] using other
          next first others pieces =>
              rcases List.mem_cons.1 mem with rfl | mem
              · have absent := ih first (by simp [pieces])
                rintro mem
                rcases List.mem_cons.1 mem with eq | mem
                · exact other eq.symm
                · exact absent mem
              · exact ih _ (by simp [pieces, mem])

end EnvConcord.Text

/-!
# Line breaks of files

Files end their lines with a line feed, a carriage return, or both; texts know the
line feed alone.
-/

namespace EnvConcord.Text

/-- Replace every carriage return, and every pair of carriage return and line feed, by a
line feed. -/
def unifyBreaks : List Char → List Char
  | [] => []
  | '\r' :: '\n' :: rest => '\n' :: unifyBreaks rest
  | '\r' :: rest => '\n' :: unifyBreaks rest
  | c :: rest => c :: unifyBreaks rest

/-- No carriage return is left. -/
theorem cr_not_mem_unifyBreaks (cs : List Char) : '\r' ∉ unifyBreaks cs := by
  fun_induction unifyBreaks cs with
  | case1 => simp
  | case2 rest ih => simpa using ih
  | case3 rest _ ih => simpa using ih
  | case4 c rest _ other ih =>
      rw [List.mem_cons, not_or]
      exact ⟨fun eq => other eq.symm, ih⟩

end EnvConcord.Text

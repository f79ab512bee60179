/-!
# Texts without colour codes

A page for a file or a pipe holds no escape codes, whatever was put into it.
-/

namespace EnvConcord.Report

/-- Whether a character may stand between the opening of an escape code and its letter. -/
def isCodeParameter (c : Char) : Bool := c == ';' || c == '?' || ('0' ≤ c && c ≤ '9')

/-- Whether a character ends an escape code. -/
def isCodeLetter (c : Char) : Bool := ('a' ≤ c && c ≤ 'z') || ('A' ≤ c && c ≤ 'Z')

/-- What follows an escape code whose opening has been passed. -/
def afterCode? (cs : List Char) : Option (List Char) :=
  match cs.dropWhile isCodeParameter with
  | c :: rest => if isCodeLetter c then some rest else none
  | [] => none

/-- What follows an escape code is shorter than the text. -/
theorem length_afterCode? {cs rest : List Char} (found : afterCode? cs = some rest) :
    rest.length < cs.length := by
  unfold afterCode? at found
  have shorter := (List.dropWhile_sublist isCodeParameter (l := cs)).length_le
  split at found
  next c tail eq =>
    rw [eq] at shorter
    split at found
    · cases found
      simp only [List.length_cons] at shorter
      omega
    · cases found
  · cases found

/-- A text without its escape codes. -/
def withoutCodes : List Char → List Char
  | '\x1b' :: '[' :: rest =>
      match _ : afterCode? rest with
      | some after => withoutCodes after
      | none => '\x1b' :: withoutCodes ('[' :: rest)
  | c :: rest => c :: withoutCodes rest
  | [] => []
termination_by cs => cs.length
decreasing_by
  · rename_i found
    have := length_afterCode? found
    simp only [List.length_cons]
    omega
  · simp
  · simp

end EnvConcord.Report

/-!
# Sorted texts

Texts are ordered by their code points.
-/

namespace EnvConcord.Text

/-- The texts in ascending order, repeats included. -/
def sort (texts : List String) : List String := texts.mergeSort fun a b => decide (a ≤ b)

/-- Keep one of each run of equal texts. -/
def dropRepeats : List String → List String
  | [] => []
  | [s] => [s]
  | s :: t :: rest => if s = t then dropRepeats (t :: rest) else s :: dropRepeats (t :: rest)

/-- The distinct texts in ascending order. -/
def sortDistinct (texts : List String) : List String := dropRepeats (sort texts)

end EnvConcord.Text

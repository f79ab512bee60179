/-!
# Blank characters and trimming

The blank characters are those with the Unicode property `White_Space`
together with the four information separators U+001C to U+001F.  Trimming
removes the blanks at both ends of a text.
-/

namespace EnvConcord.Text

/-- Whether a character separates words: a Unicode space, a line break, or an
information separator. -/
def isBlank (c : Char) : Bool :=
  let code := c.toNat
  (9 ≤ code && code ≤ 13) || (28 ≤ code && code ≤ 32) || code == 0x85 || code == 0xA0 ||
    code == 0x1680 || (0x2000 ≤ code && code ≤ 0x200A) || code == 0x2028 || code == 0x2029 ||
    code == 0x202F || code == 0x205F || code == 0x3000

/-- Remove the leading blanks. -/
def trimLeft (cs : List Char) : List Char := cs.dropWhile isBlank

/-- Remove the trailing blanks. -/
def trimRight (cs : List Char) : List Char := (cs.reverse.dropWhile isBlank).reverse

/-- Remove the blanks at both ends. -/
def trim (cs : List Char) : List Char := trimRight (trimLeft cs)

/-- Remove the blanks at both ends of a string. -/
def trimmed (s : String) : String := String.ofList (trim s.toList)

@[simp] theorem trim_nil : trim [] = [] := rfl

/-- Trimming on the left leaves nothing exactly when all of the text is blank. -/
theorem trimLeft_eq_nil_iff (cs : List Char) :
    trimLeft cs = [] ↔ ∀ c ∈ cs, isBlank c = true := by
  induction cs with
  | nil => simp [trimLeft]
  | cons c rest ih =>
      unfold trimLeft at ih ⊢
      cases blank : isBlank c <;> simp [List.dropWhile, blank, ih]

end EnvConcord.Text

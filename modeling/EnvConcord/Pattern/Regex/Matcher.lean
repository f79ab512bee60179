import EnvConcord.Pattern.Regex.Basic

/-!
# Matching regular expressions

Matching tries the possibilities of an expression in order and backtracks.  A loop
round that consumes nothing is the last one, so every path through an expression
is bounded by the text, and the fuel computed from both is never used up.
-/

namespace EnvConcord.Pattern.Regex

/-- A place in a text and what the groups have captured on the way to it. -/
structure Situation where
  position : Nat
  captures : List (Nat × Nat × Nat) := []
  deriving DecidableEq, Repr

/-- The stretch that a group has captured. -/
def Situation.captured? (s : Situation) (index : Nat) : Option (Nat × Nat) :=
  s.captures.lookup index

/-- Whether an anchor holds at a position of a text. -/
def Anchor.holds (text : Array Char) (position : Nat) : Anchor → Bool
  | .start => position == 0
  | .lineStart => position == 0 || text[position - 1]? == some '\n'
  | .finish => position == text.size
  | .lastLineEnd =>
      position == text.size || (position + 1 == text.size && text[position]? == some '\n')
  | .lineEnd => position == text.size || text[position]? == some '\n'
  | .wordBorder negated ascii =>
      if text.isEmpty then false
      else
        let isWord (c : Option Char) : Bool := c.any (CharClass.word.holds ascii)
        let before := position != 0 && isWord text[position - 1]?
        let after := isWord text[position]?
        (before != after) != negated

/-- Whether the text at `position` repeats `length` characters from `start` on. -/
def repeats (text : Array Char) (rule : CaseRule) (start position : Nat) : Nat → Bool
  | 0 => true
  | length + 1 =>
      match text[start]?, text[position]? with
      | some a, some b =>
          rule.lower a.toNat == rule.lower b.toNat &&
            repeats text rule (start + 1) (position + 1) length
      | _, _ => false

/-- Whether one more round is allowed: below the maximum, and not after a round that
began at the same place. -/
def mayContinue (max : Option Nat) (count : Nat) (last : Option Nat) (position : Nat) : Bool :=
  (max.all fun m => count < m) && last != some position

mutual

/-- Match an expression and then the continuation. -/
def run (text : Array Char) :
    Nat → Regex → Situation → (Situation → Option Situation) → Option Situation
  | 0, _, _, _ => none
  | fuel + 1, r, s, next =>
      match r with
      | .empty => next s
      | .char test =>
          match text[s.position]? with
          | some c => if test.holds c then next { s with position := s.position + 1 } else none
          | none => none
      | .anyChar lineBreaks =>
          match text[s.position]? with
          | some c =>
              if lineBreaks || c != '\n' then next { s with position := s.position + 1 }
              else none
          | none => none
      | .anchor a => if Anchor.holds text s.position a then next s else none
      | .seq first second =>
          run text fuel first s fun s => run text fuel second s next
      | .choice first second =>
          match run text fuel first s next with
          | some found => some found
          | none => run text fuel second s next
      | .capture index body =>
          run text fuel body s fun t =>
            next { t with captures := (index, s.position, t.position) :: t.captures }
      | .backref index rule =>
          match s.captured? index with
          | none => none
          | some (first, last) =>
              if repeats text rule first s.position (last - first) then
                next { s with position := s.position + (last - first) }
              else none
      | .conditional index yes no =>
          if (s.captured? index).isSome then run text fuel yes s next
          else run text fuel no s next
      | .look back negated body =>
          let start := s.position - back.getD 0
          let found :=
            if s.position < back.getD 0 then none
            else run text fuel body { s with position := start } some
          match found, negated with
          | some t, false => next { t with position := s.position }
          | none, true => next s
          | _, _ => none
      | .atomic body =>
          match run text fuel body s some with
          | some t => next t
          | none => none
      | .loop mode min max body => rounds text fuel mode min max body 0 none s next

/-- Match the rounds of a loop from round `count` on; `last` is where the latest
optional round began. -/
def rounds (text : Array Char) :
    Nat → LoopMode → Nat → Option Nat → Regex → Nat → Option Nat → Situation →
      (Situation → Option Situation) → Option Situation
  | 0, _, _, _, _, _, _, _, _ => none
  | fuel + 1, mode, min, max, body, count, last, s, next =>
      if count < min then
        match mode with
        | .possessive =>
            match run text fuel body s some with
            | some t => rounds text fuel mode min max body (count + 1) last t next
            | none => none
        | _ =>
            run text fuel body s fun t =>
              rounds text fuel mode min max body (count + 1) last t next
      else
        let again := mayContinue max count last s.position
        match mode with
        | .greedy =>
            let more :=
              if again then
                run text fuel body s fun t =>
                  rounds text fuel mode min max body (count + 1) (some s.position) t next
              else none
            match more with
            | some found => some found
            | none => next s
        | .lazy =>
            match next s with
            | some found => some found
            | none =>
                if again then
                  run text fuel body s fun t =>
                    rounds text fuel mode min max body (count + 1) (some s.position) t next
                else none
        | .possessive =>
            let more := if again then run text fuel body s some else none
            match more with
            | some t => rounds text fuel mode min max body (count + 1) (some s.position) t next
            | none => next s

end

/-- The fuel that suffices for an expression on a text of some length: its depth, and
for each loop the rounds that it can make. -/
def fuelFor (length : Nat) : Regex → Nat
  | .seq first second => 1 + max (fuelFor length first) (fuelFor length second)
  | .choice first second => 1 + max (fuelFor length first) (fuelFor length second)
  | .conditional _ yes no => 1 + max (fuelFor length yes) (fuelFor length no)
  | .capture _ body => 1 + fuelFor length body
  | .look _ _ body => 1 + fuelFor length body
  | .atomic body => 1 + fuelFor length body
  | .loop _ min _ body => min + length + 4 + fuelFor length body
  | _ => 1

/-- Whether an expression matches a text from a position on. -/
def matchesAt (r : Regex) (text : Array Char) (position : Nat) : Bool :=
  (run text (fuelFor text.size r) r { position } some).isSome

/-- Whether an expression matches somewhere in a text. -/
def occursIn (r : Regex) (text : List Char) : Bool :=
  let text := text.toArray
  (List.range (text.size + 1)).any fun position => matchesAt r text position

end EnvConcord.Pattern.Regex

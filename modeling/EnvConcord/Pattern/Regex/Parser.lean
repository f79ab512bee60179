import EnvConcord.Pattern.Regex.Escape
import EnvConcord.Text.Lines

/-!
# Reading regular expressions

A pattern is read from left to right.  The flags of the whole pattern stand at its
start, so every test is built with the flags that apply to it.
-/

namespace EnvConcord.Pattern.Regex

/-- What an item of a sequence is to a loop behind it. -/
inductive ItemKind
  | anchor
  | loop
  | other
  deriving DecidableEq, Repr

/-- An item of a sequence. -/
structure Item where
  kind : ItemKind := .other
  regex : Regex
  width : Width
  deriving Repr

/-- The items of a sequence, the last one first, as one expression. -/
def joinItems (reversed : List Item) : Regex × Width :=
  (reversed.foldl (fun (regex : Regex) item =>
      match regex with
      | .empty => item.regex
      | regex => .seq item.regex regex) .empty,
    (reversed.foldl (fun (width : Width) item => width.plus item.width) ⟨0, 0⟩).capped)

/-- A test of one character as an item. -/
def testItem (flags : Flags) (items : List SetItem) (negated : Bool) : Item where
  regex := .char { items, negated, rule := flags.caseRule, asciiClasses := flags.ascii }
  width := ⟨1, 1⟩

/-! ## Sets -/

/-- The part of a set that an escape stands for. -/
def setItem : Escaped → SetItem
  | .code value => .single value
  | .ofClass kind negated => .ofClass kind negated
  | _ => .single 0

/-- The part of a set that begins with a token. -/
def readSetItem (token : List Char) : Reader SetItem :=
  match token with
  | ['\\', c] => do return setItem (← readSetEscape c)
  | c :: _ => return .single c.toNat
  | [] => return .single 0

/-- Refuse a set that is not closed; the place is that of its bracket. -/
def unterminatedSet (start : Nat) : Reader α := throw (.at .unterminatedSet start)

/-- Read the parts of a set up to its closing bracket. -/
def readSet (start : Nat) : Nat → List SetItem → Reader (List SetItem)
  | 0, _ => unterminatedSet start
  | fuel + 1, reversed => do
      let token ← Reader.take
      if token.isEmpty then unterminatedSet start
      else if token == [']'] && !reversed.isEmpty then return reversed.reverse
      else
        let first ← readSetItem token
        if ← Reader.accept '-' then
          let last ← Reader.take
          if last.isEmpty then unterminatedSet start
          else if last == [']'] then return (.single 45 :: first :: reversed).reverse
          else
            let refuse : Reader (List SetItem) :=
              Reader.fail (.badRange (String.ofList token) (String.ofList last))
                (token.length + 1 + last.length)
            match first, ← readSetItem last with
            | .single low, .single high =>
                if high < low then refuse
                else readSet start fuel (.range low high :: reversed)
            | _, _ => refuse
        else readSet start fuel (first :: reversed)

/-! ## Loops -/

/-- The greatest number of repetitions that can be written. -/
def repetitionBound : Nat := 4294967295

/-- The value of the digits of a repetition. -/
def repetition (digits : List Char) : Reader Nat := do
  if Numeral.digitLimit < digits.length then throw (.tooManyDigits (.reading digits.length))
  else if repetitionBound ≤ Text.digitsValue digits then throw .repetitionTooLarge
  else return Text.digitsValue digits

/-- Read the bounds behind an opening brace. Where no bounds follow, the brace stands
for itself and nothing is taken. -/
def readBounds? : Reader (Option (Nat × Option Nat)) := do
  let start := (← get).cursor
  let fuel := start.rest.length + 1
  if start.head == ['}'] then return none
  else
    let low ← Reader.takeWhile Char.isDigit fuel
    let ranged ← Reader.accept ','
    let high ← if ranged then Reader.takeWhile Char.isDigit fuel else pure low
    if ← Reader.accept '}' then
      let least ← if low.isEmpty then pure 0 else repetition low
      if high.isEmpty then return some (least, none)
      else
        let most ← repetition high
        if most < least then throw (.at .minAboveMax start.position)
        else return some (least, some most)
    else
      modify fun state => { state with cursor := start }
      return none

/-- The mode of a loop: a question mark or a plus may follow its bounds. -/
def readMode : Reader LoopMode := do
  if ← Reader.accept '?' then return .lazy
  else if ← Reader.accept '+' then return .possessive
  else return .greedy

/-- Put a loop around the last item. `start` is the place behind the mark of the loop. -/
def loopLast (start : Nat) (least : Nat) (most : Option Nat) (reversed : List Item) :
    Reader (List Item) := do
  match reversed with
  | [] => throw (.at .nothingToRepeat (start - 1))
  | item :: rest =>
      match item.kind with
      | .anchor => throw (.at .nothingToRepeat (start - 1))
      | .loop => throw (.at .multipleRepeat (start - 1))
      | .other =>
          let mode ← readMode
          return { kind := .loop, regex := .loop mode least most item.regex
                   width := item.width.times least most } :: rest

/-! ## Flags -/

/-- The flags that a group turns on and off; flags for the whole pattern are apart. -/
inductive FlagGroup
  | global (on : Flags)
  | scope (on off : Flags)
  deriving Repr

/-- Refuse what is no flag: an unknown letter, or something else entirely. -/
def badFlag (token : List Char) (otherwise : Cause) : Reader α :=
  let unknown :=
    match token with
    | [c] => Text.isLetter c
    | _ => false
  Reader.fail (if unknown then .unknownFlag else otherwise) token.length

/-- Read the flags that are turned off; `token` is the next one. -/
def readFlagsOff : Nat → Flags → List Char → Reader Flags
  | 0, off, _ => return off
  | fuel + 1, off, token => do
      match Flags.ofLetter? token with
      | none => return off
      | some flag =>
          if flag.ascii || flag.unicode || token == ['L'] then Reader.fail .alphabetOff 0
          else
            let off := off.union flag
            let next ← Reader.take
            if next.isEmpty then Reader.fail .missingColon 0
            else if next == [':'] then return off
            else if (Flags.ofLetter? next).isNone then badFlag next .missingColon
            else readFlagsOff fuel off next

/-- Read the flags that are turned on, and what ends them; `token` is the next one. -/
def readFlagsOn : Nat → Flags → List Char → Reader (Flags × List Char)
  | 0, on, token => return (on, token)
  | fuel + 1, on, token => do
      match Flags.ofLetter? token with
      | none => return (on, token)
      | some flag =>
          if token == ['L'] then Reader.fail .localeFlag 0
          else
            let on := on.union flag
            if (flag.ascii || flag.unicode) && on.ascii && on.unicode then
              Reader.fail .alphabetConflict 0
            else
              let next ← Reader.take
              if next.isEmpty then Reader.fail .missingFlagEnd 0
              else if next == [')'] || next == ['-'] || next == [':'] then return (on, next)
              else if (Flags.ofLetter? next).isNone then badFlag next .missingFlagEnd
              else readFlagsOn fuel on next

/-- Read the flags behind an opening parenthesis and a question mark. -/
def readFlags (token : List Char) : Reader FlagGroup := do
  let fuel := (← get).cursor.rest.length + 3
  let (on, finish) ←
    if token == ['-'] then pure (({} : Flags), token) else readFlagsOn fuel {} token
  if finish == [')'] then
    modify fun state => { state with flags := state.flags.union on }
    return .global on
  else if on.template then Reader.fail .globalFlagOn 1
  else
    let off ←
      if finish == ['-'] then do
        let first ← Reader.take
        if first.isEmpty then Reader.fail .missingFlag 0
        else if (Flags.ofLetter? first).isNone then badFlag first .missingFlag
        else readFlagsOff fuel {} first
      else pure {}
    if off.template then Reader.fail .globalFlagOff 1
    else if on.meets off then Reader.fail .flagOnAndOff 1
    else return .scope on off

/-! ## Groups -/

/-- Open a group, under a name if it has one, and give its number. -/
def openGroup (name : Option (List Char)) : Reader Nat := do
  let state ← get
  let index := state.groups.length + 1
  set { state with groups := state.groups ++ [none] }
  match name with
  | none => return index
  | some letters =>
      let name := String.ofList letters
      match state.names.lookup name with
      | some earlier => Reader.fail (.repeatedName name index earlier) (letters.length + 1)
      | none =>
          modify fun state => { state with names := (name, index) :: state.names }
          return index

/-- Close a group. -/
def closeGroup (index : Nat) (width : Width) : Reader Unit :=
  modify fun state => { state with groups := state.groups.set (index - 1) (some width) }

/-- Read a group name up to its terminator. -/
def readName (terminator : Char) : Reader (List Char) := do
  let fuel := (← get).cursor.rest.length + 2
  let name ← Reader.takeUntil terminator "group name" fuel []
  if Text.isName name then return name
  else Reader.fail (.badGroupName (String.ofList name)) (name.length + 1)

/-- The group of a name. -/
def namedGroup (name : List Char) : Reader Nat := do
  match (← get).names.lookup (String.ofList name) with
  | some index => return index
  | none => Reader.fail (.unknownGroup (String.ofList name)) (name.length + 1)

/-- A reference to a group as an item. -/
def backrefItem (flags : Flags) (index : Nat) : Reader Item := do
  let width := ((← get).groups.getD (index - 1) none).getD ⟨0, 0⟩
  return { regex := .backref index flags.caseRule, width }

/-- Read a reference to a named group. -/
def readNamedBackref (flags : Flags) : Reader Item := do
  let name ← readName ')'
  let index ← namedGroup name
  if !isClosed (← get) index then Reader.fail .openGroup (name.length + 1)
  else
    checkLookbehind index
    backrefItem flags index

/-- The integer that a condition names, with blanks around it and underscores between
its digits allowed. -/
def conditionNumber? (name : List Char) : Option Nat :=
  let (negative, digits) := Numeral.splitSign (Text.trim name)
  let grouped := Text.splitAt '_' digits
  if !grouped.all (fun part => !part.isEmpty && part.all Text.isDigit) then none
  else
    let digits := grouped.flatten
    if Numeral.digitLimit < digits.length then none
    else
      let value := Text.digitsValue digits
      if negative && value ≠ 0 then none else some value

/-- The number from which on no group can exist. -/
def groupBound : Nat := 1073741823

/-- Read the group of a condition up to the closing parenthesis. -/
def readCondition : Reader Nat := do
  let fuel := (← get).cursor.rest.length + 2
  let name ← Reader.takeUntil ')' "group name" fuel []
  if Text.isName name then namedGroup name
  else
    match conditionNumber? name with
    | none => Reader.fail (.badGroupName (String.ofList name)) (name.length + 1)
    | some 0 => Reader.fail .badGroupNumber (name.length + 1)
    | some index =>
        if groupBound ≤ index then Reader.fail (.noSuchGroup index) (name.length + 1)
        else
          let place := (← Reader.position) - name.length - 1
          modify fun state =>
            if (state.conditions.lookup index).isSome then state
            else { state with conditions := state.conditions ++ [(index, place)] }
          return index

/-- Skip a comment up to its closing parenthesis; `start` is where it began. -/
def skipComment (start : Nat) : Nat → Reader Unit
  | 0 => return ()
  | fuel + 1 => do
      if (← Reader.peek).isEmpty then throw (.at .unterminatedComment start)
      else if (← Reader.take) == [')'] then return ()
      else skipComment start fuel

/-- Require the parenthesis that closes a group begun at `start`. -/
def closeParenthesis (start : Nat) : Reader Unit := do
  if ← Reader.accept ')' then return () else throw (.at .unterminatedGroup start)

/-- An assertion as an item. What a lookbehind looks for must have a fixed width. -/
def lookItem (behind negated : Bool) (body : Regex) (width : Width) : Reader Item := do
  if behind then
    let fault :=
      if repetitionBound < width.low then some Cause.longLookbehind
      else if width.low ≠ width.high then some .variableLookbehind
      else none
    modify fun state => { state with late := state.late.orElse fun _ => fault }
  return { regex := .look (if behind then some width.low else none) negated body, width := ⟨0, 0⟩ }

/-- Skip to the end of a line of a verbose pattern. -/
def skipLine : Nat → Reader Unit
  | 0 => return ()
  | fuel + 1 => do
      let token ← Reader.take
      if token.isEmpty || token == ['\n'] then return () else skipLine fuel

/-- Whether a token is skipped in a verbose pattern. -/
def isSpaceToken : List Char → Bool
  | [c] => c == ' ' || (9 ≤ c.toNat && c.toNat ≤ 13)
  | _ => false

/-- The item of an escape. -/
def escapeItem (flags : Flags) : Escaped → Reader Item
  | .code value => return testItem flags [.single value] false
  | .ofClass kind negated => return testItem flags [.ofClass kind negated] false
  | .anchor a => return { kind := .anchor, regex := .anchor a, width := ⟨0, 0⟩ }
  | .group index => backrefItem flags index

/-- How a group behaves. -/
inductive GroupKind
  | capturing (name : Option (List Char))
  | plain
  | atomic
  deriving Repr

/-! ## Sequences and choices -/

mutual

/-- Read alternatives up to the end of the pattern or a closing parenthesis. -/
def readChoice : Nat → Flags → Bool → Reader (Regex × Width)
  | 0, _, _ => return (.empty, ⟨0, 0⟩)
  | fuel + 1, flags, top => do
      let (first, width) ← readSequence fuel flags top []
      if ← Reader.accept '|' then
        let state ← get
        let flags := if top then state.flags else flags
        let (rest, others) ← readAlternatives fuel flags
        return (.choice first rest, width.either others)
      else return (first, width)

/-- Read the alternatives behind a bar. -/
def readAlternatives : Nat → Flags → Reader (Regex × Width)
  | 0, _ => return (.empty, ⟨0, 0⟩)
  | fuel + 1, flags => do
      let (first, width) ← readSequence fuel flags false []
      if ← Reader.accept '|' then
        let (rest, others) ← readAlternatives fuel flags
        return (.choice first rest, width.either others)
      else return (first, width)

/-- Read a sequence behind the items read so far. `top` says whether flags for the
whole pattern may still stand here. -/
def readSequence : Nat → Flags → Bool → List Item → Reader (Regex × Width)
  | 0, _, _, reversed => return joinItems reversed
  | fuel + 1, flags, top, reversed => do
      let token ← Reader.peek
      if token.isEmpty || token == ['|'] || token == [')'] then return joinItems reversed
      else
        let _ ← Reader.take
        if flags.verbose && isSpaceToken token then readSequence fuel flags top reversed
        else if flags.verbose && token == ['#'] then do
          skipLine ((← get).cursor.rest.length + 2)
          readSequence fuel flags top reversed
        else
          match token with
          | ['\\', c] => do
              let item ← escapeItem flags (← readEscape flags.ascii c)
              readSequence fuel flags top (item :: reversed)
          | ['['] => do
              let start := (← Reader.position) - 1
              let negated ← Reader.accept '^'
              let items ← readSet start ((← get).cursor.rest.length + 2) []
              readSequence fuel flags top (testItem flags items negated :: reversed)
          | ['.'] =>
              readSequence fuel flags top
                ({ regex := .anyChar flags.dotAll, width := ⟨1, 1⟩ } :: reversed)
          | ['^'] =>
              let a : Anchor := if flags.multiline then .lineStart else .start
              readSequence fuel flags top
                ({ kind := .anchor, regex := .anchor a, width := ⟨0, 0⟩ } :: reversed)
          | ['$'] =>
              let a : Anchor := if flags.multiline then .lineEnd else .lastLineEnd
              readSequence fuel flags top
                ({ kind := .anchor, regex := .anchor a, width := ⟨0, 0⟩ } :: reversed)
          | ['*'] => do
              readSequence fuel flags top (← loopLast (← Reader.position) 0 none reversed)
          | ['+'] => do
              readSequence fuel flags top (← loopLast (← Reader.position) 1 none reversed)
          | ['?'] => do
              readSequence fuel flags top (← loopLast (← Reader.position) 0 (some 1) reversed)
          | ['{'] => do
              let start ← Reader.position
              let bounds ← readBounds?
              match bounds with
              | some (least, most) =>
                  readSequence fuel flags top (← loopLast start least most reversed)
              | none =>
                  readSequence fuel flags top (testItem flags [.single 0x7B] false :: reversed)
          | ['('] => do
              let start := (← Reader.position) - 1
              if ← Reader.accept '?' then
                readExtension fuel flags top start reversed
              else
                let item ← readGroup fuel flags start (.capturing none)
                readSequence fuel flags top (item :: reversed)
          | c :: _ =>
              readSequence fuel flags top (testItem flags [.single c.toNat] false :: reversed)
          | [] => return joinItems reversed

/-- Read what stands behind an opening parenthesis and a question mark, and the rest
of the sequence. -/
def readExtension : Nat → Flags → Bool → Nat → List Item → Reader (Regex × Width)
  | 0, _, _, _, reversed => return joinItems reversed
  | fuel + 1, flags, top, start, reversed => do
      let token ← Reader.take
      match token with
      | [] => Reader.fail .unexpectedEnd 0
      | ['P'] =>
          if ← Reader.accept '<' then
            let name ← readName '>'
            let item ← readGroup fuel flags start (.capturing (some name))
            readSequence fuel flags top (item :: reversed)
          else if ← Reader.accept '=' then
            let item ← readNamedBackref flags
            readSequence fuel flags top (item :: reversed)
          else
            let token ← Reader.take
            if token.isEmpty then Reader.fail .unexpectedEnd 0
            else
              Reader.fail (.unknownExtension (String.ofList ('?' :: 'P' :: token)))
                (token.length + 2)
      | [':'] => do
          let item ← readGroup fuel flags start .plain
          readSequence fuel flags top (item :: reversed)
      | ['>'] => do
          let item ← readGroup fuel flags start .atomic
          readSequence fuel flags top (item :: reversed)
      | ['#'] => do
          skipComment start ((← get).cursor.rest.length + 2)
          readSequence fuel flags top reversed
      | ['='] => do
          let item ← readLook fuel flags start false false
          readSequence fuel flags top (item :: reversed)
      | ['!'] => do
          let item ← readLook fuel flags start false true
          readSequence fuel flags top (item :: reversed)
      | ['<'] => do
          let token ← Reader.take
          if token.isEmpty then Reader.fail .unexpectedEnd 0
          else if token == ['='] || token == ['!'] then
            let item ← readLook fuel flags start true (token == ['!'])
            readSequence fuel flags top (item :: reversed)
          else
            Reader.fail (.unknownExtension (String.ofList ('?' :: '<' :: token)))
              (token.length + 2)
      | ['('] => do
          let index ← readCondition
          checkLookbehind index
          let (yes, width) ← readSequence fuel flags false []
          let (no, others) ←
            if ← Reader.accept '|' then do
              let branch ← readSequence fuel flags false []
              if (← Reader.peek) == ['|'] then Reader.fail .thirdBranch 0
              else pure branch
            else pure (.empty, ⟨0, width.high⟩)
          closeParenthesis start
          let item : Item := { regex := .conditional index yes no, width := width.either others }
          readSequence fuel flags top (item :: reversed)
      | token =>
          if token == ['-'] || (Flags.ofLetter? token).isSome then do
            let group ← readFlags token
            match group with
            | .global on =>
                if !top || !reversed.isEmpty then throw (.at .lateFlags start)
                else readSequence fuel (flags.union on) top reversed
            | .scope on off =>
                let item ← readGroup fuel (flags.within on off) start .plain
                readSequence fuel flags top (item :: reversed)
          else
            Reader.fail (.unknownExtension (String.ofList ('?' :: token))) (token.length + 1)

/-- Read the inside of an assertion and its closing parenthesis. -/
def readLook : Nat → Flags → Nat → Bool → Bool → Reader Item
  | 0, _, _, _, _ => return { regex := .empty, width := ⟨0, 0⟩ }
  | fuel + 1, flags, start, behind, negated => do
      let outer := (← get).lookbehind
      if behind && outer.isNone then
        modify fun state => { state with lookbehind := some (state.groups.length + 1) }
      let (body, width) ← readChoice fuel flags false
      if behind && outer.isNone then
        modify fun state => { state with lookbehind := none }
      closeParenthesis start
      lookItem behind negated body width

/-- Read the inside of a group and its closing parenthesis. -/
def readGroup : Nat → Flags → Nat → GroupKind → Reader Item
  | 0, _, _, _ => return { regex := .empty, width := ⟨0, 0⟩ }
  | fuel + 1, flags, start, kind => do
      match kind with
      | .capturing name =>
          let index ← openGroup name
          let (body, width) ← readChoice fuel flags false
          closeParenthesis start
          closeGroup index width
          return { regex := .capture index body, width }
      | .plain =>
          let (regex, width) ← readChoice fuel flags false
          closeParenthesis start
          return { regex, width }
      | .atomic =>
          let (body, width) ← readChoice fuel flags false
          closeParenthesis start
          return { regex := .atomic body, width }

end

/-- Read a whole pattern. -/
def readPattern (fuel : Nat) : Reader Regex := do
  let (regex, _) ← readChoice fuel {} true
  let state ← get
  if state.flags.ascii && state.flags.unicode then throw .alphabets
  else if !state.cursor.head.isEmpty then Reader.fail .unbalanced 0
  else
    match state.conditions.find? fun entry => state.groups.length < entry.1 with
    | some (index, place) => throw (.at (.noSuchGroup index) place)
    | none =>
        match state.late with
        | some cause => throw (.general cause)
        | none => return regex

/-- Read a pattern. Every step takes a token or descends into a group, so twice the
length bounds the depth. -/
def parse (pattern : List Char) : Except Fault Regex := do
  let cursor ← Cursor.load 0 pattern
  let (regex, _) ← (readPattern (4 * pattern.length + 8)).run { cursor }
  return regex

end EnvConcord.Pattern.Regex

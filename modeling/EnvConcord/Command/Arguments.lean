/-!
# Reading arguments

A command line is a list of words.  A word with a leading dash names options, whose value
may stand in the same word or in the next one; two dashes alone end the options; every
other word is an operand.
-/

namespace EnvConcord.Command

/-- An option that a command knows. -/
structure OptionSpec where
  /-- What its occurrences are recorded by. -/
  id : String
  /-- Its long names, with two dashes. -/
  long : List String := []
  /-- Its letters. -/
  letters : List Char := []
  takesValue : Bool := false
  deriving DecidableEq, Repr

/-- An occurrence of an option; one without a value has the empty text. -/
structure Occurrence where
  id : String
  value : String := ""
  deriving DecidableEq, Repr

/-- The words of a command line, sorted into options and operands. -/
structure Arguments where
  options : List Occurrence := []
  operands : List String := []
  deriving DecidableEq, Repr

namespace Arguments

/-! ## One word -/

/-- What one word amounts to: occurrences of options, and an option that still lacks its
value. -/
structure Word where
  options : List Occurrence := []
  waiting : Option String := none

/-- The option of a long name. -/
def findLong? (specs : List OptionSpec) (name : String) : Option OptionSpec :=
  specs.find? fun spec => spec.long.contains name

/-- The option of a letter. -/
def findLetter? (specs : List OptionSpec) (letter : Char) : Option OptionSpec :=
  specs.find? fun spec => spec.letters.contains letter

/-- A word that is a long name, with a value behind an equals sign or without one. -/
def readLong? (spec : OptionSpec) (value : Option String) : Option Word :=
  match spec.takesValue, value with
  | false, none => some { options := [{ id := spec.id }] }
  | false, some _ => none
  | true, none => some { waiting := some spec.id }
  | true, some value => some { options := [{ id := spec.id, value }] }

/-- A word of letters. The first letter that takes a value has the rest of the word as its
value. -/
def readLetters? (specs : List OptionSpec) : List Char → Option Word
  | [] => some {}
  | letter :: rest => do
      let spec ← findLetter? specs letter
      if spec.takesValue then
        if rest.isEmpty then return { waiting := some spec.id }
        else return { options := [{ id := spec.id, value := String.ofList rest }] }
      else
        let word ← readLetters? specs rest
        return { word with options := { id := spec.id } :: word.options }

/-- A word with a leading dash. A long name counts before letters do. -/
def readWord? (specs : List OptionSpec) (word : String) : Option Word :=
  let cs := word.toList
  let name := cs.takeWhile (· != '=')
  let value :=
    match cs.dropWhile (· != '=') with
    | _ :: value => some (String.ofList value)
    | [] => none
  match findLong? specs (String.ofList name) with
  | some spec => readLong? spec value
  | none =>
      match cs with
      | '-' :: '-' :: _ => none
      | _ :: letters => readLetters? specs letters
      | [] => none

/-- Whether a word names options. -/
def namesOptions (word : String) : Bool :=
  match word.toList with
  | '-' :: _ :: _ => true
  | _ => false

/-! ## All words -/

/-- Put options before what was read behind them. -/
def withOptions (options : List Occurrence) (a : Arguments) : Arguments :=
  { a with options := options ++ a.options }

/-- Read words; without `mixed` the first operand ends the options. There is no result where
an option is not known or lacks its value, or has one that it does not take. -/
def read? (specs : List OptionSpec) (mixed : Bool) : List String → Option Arguments
  | [] => some {}
  | word :: rest =>
      if word == "--" then some { operands := rest }
      else if namesOptions word then
        match readWord? specs word with
        | none => none
        | some { options, waiting := none } => (read? specs mixed rest).map (withOptions options)
        | some { options, waiting := some id } =>
            match rest with
            | [] => none
            | value :: rest =>
                (read? specs mixed rest).map (withOptions (options ++ [{ id, value }]))
      else if mixed then
        (read? specs mixed rest).map fun a => { a with operands := word :: a.operands }
      else some { operands := word :: rest }

/-! ## Looking up -/

/-- The values of an option, in their order. -/
def values (a : Arguments) (id : String) : List String :=
  (a.options.filter fun occurrence => occurrence.id == id).map Occurrence.value

/-- The last value of an option. -/
def value? (a : Arguments) (id : String) : Option String := (a.values id).getLast?

/-- Whether an option occurs. -/
def has (a : Arguments) (id : String) : Bool := a.options.any fun occurrence => occurrence.id == id

/-- Which of two opposite options occurs last. -/
def lastOf (a : Arguments) (yes no : String) (otherwise : Bool) : Bool :=
  let given := a.options.filter fun occurrence => occurrence.id == yes || occurrence.id == no
  match given.getLast? with
  | some occurrence => occurrence.id == yes
  | none => otherwise

end Arguments

end EnvConcord.Command

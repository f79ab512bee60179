import EnvConcord.Logged
import EnvConcord.Report.Codes
import EnvConcord.Report.Markup
import EnvConcord.Report.Styled
import EnvConcord.Tree.Basic

/-!
# Printing and writing

A command prints as it goes and may end early.  Printing alone leaves the tree as it is;
only a command in the shell can change it, and what it has changed stays changed when it
ends early.
-/

namespace EnvConcord.Command

open Report

/-- Why a command ends before it is done. -/
inductive Stop
  /-- The command decides so. -/
  | exit (code : Nat)
  /-- A failure that is still to be reported. -/
  | failure (message : String)
  /-- A failure whose report cannot be shown. -/
  | crash (cause : Markup.Fault)
  deriving DecidableEq, Repr

/-- The tree and what has been printed. -/
structure Session where
  tree : Tree
  printed : String := ""

/-- A computation that prints. -/
abbrev Printing := ExceptT Stop (StateT String Logged)

/-- A computation that prints and may change the tree. -/
abbrev Shell := ExceptT Stop (StateT Session Logged)

/-- Run a computation that prints in the shell. -/
def Shell.ofPrinting (p : Printing α) : Shell α :=
  ExceptT.mk fun s => do
    let (result, printed) ← p.run.run s.printed
    return (result, { s with printed })

instance : MonadLift Printing Shell where
  monadLift := Shell.ofPrinting

/-- Printing leaves the tree as it is, however it ends. -/
theorem Shell.tree_ofPrinting (p : Printing α) (s : Session) :
    ((Shell.ofPrinting p).run.run s).value.2.tree = s.tree := rfl

namespace Printing

/-- The width at which messages are folded. -/
def width : Nat := 400

/-- Print a text as it is. -/
def put (text : String) : Printing Unit := fun printed => pure (.ok (), printed ++ text)

/-- End with a failure. -/
def fail (message : String) : Printing α := throw (.failure message)

/-- Go on with a result, or end with the failure that it is. -/
def orFail (message : ε → String) : Except ε α → Printing α
  | .ok value => pure value
  | .error fault => fail (message fault)

/-- Go on with the result of an attempt, or end with its failure. -/
def attempt (message : ε → String) (a : Attempt ε α) : Printing α := do
  let result ← ExceptT.lift (monadLift a.outcome)
  orFail message result

/-- Print lines of a page without colours. -/
def putLines (lines : List Line) : Printing Unit := put (String.ofList (renderLines false lines))

/-- A text folded into lines. -/
def folded (text : List Char) : List Line :=
  (wrap width .fold .none true text).map fun line => [⟨line, {}⟩]

/-- Print a text, without the control characters that are dropped. -/
def sayPlain (text : String) : Printing Unit := putLines (folded (Report.clean text.toList))

/-- Print what a message shows. -/
def say (message : String) : Printing Unit := do
  putLines (folded (← orFail Markup.Fault.message (Markup.plain message.toList)))

/-- Print a report and end its line. -/
def echo (report : String) : Printing Unit :=
  put (String.ofList (withoutCodes (report.toList ++ ['\n'])))

/-- Report a failure and end with a code. A failure whose message cannot be shown makes the
command crash. -/
def report (code : Nat) (message : String) : Printing α :=
  match Markup.plain ("[bold red]Error:[/bold red] " ++ message).toList with
  | .ok text => do
      putLines (folded text)
      throw (.exit code)
  | .error cause => throw (.crash cause)

end Printing

namespace Shell

/-- The tree at this point. -/
def tree : Shell Tree := fun s => pure (.ok s.tree, s)

/-- Go on with another tree. -/
def setTree (t : Tree) : Shell Unit := fun s => pure (.ok (), { s with tree := t })

/-- Put a text into a file. -/
def write (p : Path) (text : String) : Shell Unit := do
  setTree (← Printing.orFail Tree.Fault.message ((← tree).writeText p text))

/-- Report the failures of a command and end with a code. -/
def reporting (code : Nat) (body : Shell Unit) : Shell Unit :=
  tryCatch body fun
    | .failure message => Printing.report code message
    | stop => throw stop

end Shell

end EnvConcord.Command

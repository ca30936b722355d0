import RunFilter.Command.Arguments
import RunFilter.Text.Blank

/-!
# Running a command

What the program writes and with which code it ends, as a function of its arguments, its input and
the text of the settings file.
-/

set_option autoImplicit false

namespace RunFilter.Command

/-- The code the program ends with, and what it writes to its two outputs. -/
structure Outcome where
  code : Nat
  stdout : String
  stderr : String
  deriving DecidableEq, Repr

/-- How to call the program. -/
def usage : String :=
  Manual.page [
    "Usage: runql check [QUERY] [-c FILE] [-d DIALECT] [-s] [-p] [--syntax-only]",
    "       runql docs",
    "       runql doc CATEGORY",
    "       runql --version"]

/-- The name and the version of the program. -/
def versionText : String := "runql 0.1.0\n"

namespace Outcome

/-- A command that did what it was asked for. -/
def success (stdout : String) : Outcome := ⟨0, stdout, ""⟩

/-- A command that failed: the message, and the excerpt if there is one. -/
def failure (e : CommandError) : Outcome :=
  ⟨1, "", Manual.page (e.message :: e.excerpt.toList)⟩

/-- Arguments that the program does not know. -/
def misused : Outcome := ⟨2, "", usage⟩

end Outcome

namespace Invocation

/-- Whether the invocation reads the input of the program. -/
def readsInput : Invocation → Bool
  | .check none _ _ => true
  | _ => false

/-- The file that the invocation reads. -/
def file? : Invocation → Option String
  | .check _ options _ => options.file?
  | _ => none

/-- The output of a check. -/
def checkText (pretty : Bool) : CheckResult → String
  | .readable => "Syntax is valid\n"
  | .compiled document => (if pretty then document.pretty else document.compact) ++ "\n"

/-- **The outcome of an invocation**, for the input and the text of the settings file. A query from
the input ends before the blanks at its end. -/
def outcome (input : String) (file : Option String) : Invocation → Outcome
  | .check query options pretty =>
    let query := query.getD (Text.trimEnd input)
    match { options with query }.run file with
    | .ok result => .success (checkText pretty result)
    | .error e => .failure e
  | .docs => .success Manual.overview
  | .doc category =>
    match Manual.Category.ofName? category with
    | some c => .success c.text
    | none => .failure (.unknownCategory category)
  | .version => .success versionText
  | .help => .success usage

end Invocation

end RunFilter.Command

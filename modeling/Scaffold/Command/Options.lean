/-!
# Options

What a command line asks for: the options every command accepts, the options of each command, and
the ways in which a command line can be wrong.
-/

namespace Scaffold.Command

inductive OutputFormat where
  /-- Human on a terminal, plain otherwise. -/
  | auto
  | human
  | plain
  | json
  deriving DecidableEq, Repr

def OutputFormat.ofName? : String → Option OutputFormat
  | "auto" => some auto
  | "human" => some human
  | "plain" => some plain
  | "json" => some json
  | _ => none

inductive Shell where
  | bash | zsh | fish | powerShell | elvish
  deriving DecidableEq, Repr

def Shell.ofName? : String → Option Shell
  | "bash" => some bash
  | "zsh" => some zsh
  | "fish" => some fish
  | "power-shell" => some powerShell
  | "elvish" => some elvish
  | _ => none

inductive ConfigQuery where
  | list
  | path
  deriving DecidableEq, Repr

structure GlobalOptions where
  verbose : Nat
  quiet : Bool
  noColor : Bool
  config : Option String
  format : OutputFormat
  deriving DecidableEq, Repr

structure AuthOptions where
  attributes : List String
  root : Option String
  migrations : Option String
  templates : Option String
  dryRun : Bool
  deriving DecidableEq, Repr

inductive Action where
  | auth (options : AuthOptions)
  | completions (shell : Shell)
  | config (query : ConfigQuery)
  deriving DecidableEq, Repr

def Action.isScript : Action → Bool
  | completions _ => true
  | _ => false

structure Invocation where
  options : GlobalOptions
  action : Action
  deriving DecidableEq, Repr

inductive UsageError where
  | help
  | version
  /-- Nothing was given where a command is needed. -/
  | nothingGiven
  | missingSubcommand
  | unknownSubcommand
  | unknownArgument
  | tooManyValues
  | invalidValue
  /-- An option was repeated, or excludes another one. -/
  | conflict
  | missingArgument
  deriving DecidableEq, Repr

/-- Whether the user asked for the text that is printed instead. -/
def UsageError.isRequest : UsageError → Bool
  | help | version => true
  | _ => false

def UsageError.exitCode (e : UsageError) : Nat :=
  if e.isRequest then 0 else 2

end Scaffold.Command

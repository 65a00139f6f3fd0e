import Scaffold.Command.Style
import Scaffold.Failure
import Scaffold.Settings.Layers
/-!
# Troubles

Why a command fails, how the user is told, and with which exit code. The exit code depends on the
category alone: 2 for a mistake of the user, 3 for something that is missing, 4 for the
configuration, 1 for the rest.
-/

namespace Scaffold.Command

inductive Trouble where
  | invalidInput (message : String) (cause : Option String)
  | rootNotFound (path : String)
  /-- There are no settings; the causes are given from the outside in. -/
  | settings (message : String) (causes : List String)
  | generation (failure : Failure)
  | system (message cause : String)
  deriving DecidableEq, Repr

inductive TroubleCategory where
  | userError | notFound | configuration | internal
  deriving DecidableEq, Repr

def TroubleCategory.exitCode : TroubleCategory → Nat
  | userError => 2
  | notFound => 3
  | configuration => 4
  | internal => 1

namespace Trouble

def ofFault (fault : Settings.Fault) : Trouble :=
  settings fault.message fault.causes

def ofSystem (message : String) : Trouble :=
  system message message

def message : Trouble → String
  | invalidInput message _ => "Invalid input: " ++ message
  | rootNotFound path => "Application root not found: " ++ path
  | settings message _ => "Configuration error: " ++ message
  | generation failure => "Generation failed: " ++ failure.message
  | system message _ => "I/O error: " ++ message

/-- The causes, from the outside in. The failure of the generator is its own cause: it is reported
once by the runner and once by the part that failed. -/
def causes : Trouble → List String
  | invalidInput _ cause => cause.toList
  | rootNotFound _ => []
  | settings _ causes => causes
  | generation failure => [failure.message, failure.message]
  | system _ cause => [cause]

def suggestions (settingsPath : String) : Trouble → List String
  | invalidInput message _ =>
    ["Check your input: " ++ message, "Use --help for usage information"]
  | rootNotFound path =>
    ["'" ++ path ++ "' is not a directory", "Pass the application directory with --root"]
  | settings message _ =>
    ["Configuration issue: " ++ message, "Check your config file at " ++ settingsPath]
  | generation failure => failure.suggestions
  | system message _ => ["I/O operation failed: " ++ message, "Check file permissions"]

def categoryOf : Category → TroubleCategory
  | .validation => .userError
  | .notFound => .notFound
  | .configuration => .configuration
  | .internal => .internal

def category : Trouble → TroubleCategory
  | invalidInput .. => .userError
  | rootNotFound .. => .notFound
  | settings .. => .configuration
  | generation failure => categoryOf failure.category
  | system .. => .internal

def exitCode (trouble : Trouble) : Nat :=
  trouble.category.exitCode

def suggestionLines (heading : String) (suggestions : List String) : String :=
  if suggestions.isEmpty then ""
  else "\n" ++ heading ++ "\n" ++ String.join (suggestions.map fun s => "  " ++ s ++ "\n")

def plain (settingsPath : String) (verbose : Bool) (trouble : Trouble) : String :=
  "\nError: " ++ trouble.message ++ "\n" ++
    (if verbose then String.join (trouble.causes.map fun c => "  Caused by: " ++ c ++ "\n")
      else "") ++
    suggestionLines "Suggestions:" (trouble.suggestions settingsPath) ++
    (if verbose then "" else "\nUse -v / --verbose for more details.\n")

def colored (settingsPath : String) (verbose : Bool) (trouble : Trouble) : String :=
  "\n" ++ Style.bold (Style.red "✗") ++ " " ++ Style.bold (Style.red "Error:") ++ "\n\n  " ++
    Style.red trouble.message ++ "\n" ++
    (if verbose then
        String.join (trouble.causes.map fun c =>
          "\n  " ++ Style.dimmed "→" ++ " " ++ Style.dimmed c ++ "\n")
      else "") ++
    suggestionLines (Style.bold (Style.yellow "Suggestions:"))
      (trouble.suggestions settingsPath) ++
    (if verbose then ""
      else
        "\n" ++ Style.blue "ℹ" ++ " " ++ Style.dimmed "Use -v / --verbose for more details." ++ "\n")

end Trouble

end Scaffold.Command

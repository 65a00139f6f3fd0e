import Scaffold.Command.Arguments
/-!
# Usage texts

The texts printed instead of a command: help, version, faults of the command line, and the
completion scripts of shells.
-/

namespace Scaffold.Command

def programName : String := "stitch"

def versionLine : String := programName ++ " 0.1.0\n"

def helpText : String :=
  "Stitch features into an existing web application\n\n" ++
    "Usage: stitch [OPTIONS] auth [ATTR]...\n" ++
    "       stitch [OPTIONS] completions <bash|zsh|fish|power-shell|elvish>\n" ++
    "       stitch [OPTIONS] config <list|path>\n\n" ++
    "Options:\n" ++
    "  -v, --verbose                Log more detail\n" ++
    "  -q, --quiet                  Print only errors\n" ++
    "      --no-color               Disable colored output\n" ++
    "  -c, --config <FILE>          Read configuration from FILE\n" ++
    "      --output-format <FORMAT> auto, human, plain or json\n" ++
    "  -h, --help                   Print help\n" ++
    "  -V, --version                Print version\n\n" ++
    "Options of auth:\n" ++
    "  -r, --root <DIR>             Application root\n" ++
    "      --migrations-dir <DIR>   Migrations directory\n" ++
    "      --templates <DIR>        Template directory\n" ++
    "      --dry-run                Show what would be written without writing\n"

def UsageError.message : UsageError → String
  | .help => helpText
  | .version => versionLine
  | .nothingGiven => helpText
  | .missingSubcommand => "error: a subcommand is required\n"
  | .unknownSubcommand => "error: unrecognized subcommand\n"
  | .unknownArgument => "error: unexpected argument found\n"
  | .tooManyValues => "error: unexpected value for an option that takes none\n"
  | .invalidValue => "error: invalid or missing value for an option\n"
  | .conflict => "error: an argument was repeated or cannot be used with another one\n"
  | .missingArgument => "error: a required argument was not provided\n"

def completionWords : String :=
  String.intercalate " "
    (["auth", "completions", "config", "help"] ++ Opt.all.map fun o => "--" ++ o.long)

def completionScript : Shell → String
  | .bash => "complete -W \"" ++ completionWords ++ "\" stitch\n"
  | .zsh => "#compdef stitch\n_arguments \"*: :(" ++ completionWords ++ ")\"\n"
  | .fish => "complete -c stitch -a \"" ++ completionWords ++ "\"\n"
  | .powerShell =>
    "Register-ArgumentCompleter -Native -CommandName stitch -ScriptBlock \x7b\n  \"" ++
      completionWords ++ "\" -split \" \"\n\x7d\n"
  | .elvish =>
    "set edit:completion:arg-completer[stitch] = \x7b|@args| put " ++ completionWords ++ " \x7d\n"

end Scaffold.Command

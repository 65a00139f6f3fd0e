import Scaffold.Command.Host
import Scaffold.Command.Options
import Scaffold.Command.Style
import Scaffold.Command.Trouble
import Scaffold.Json
import Scaffold.Run
import Scaffold.Settings.Basic
/-!
# Output

What a command prints: texts that are written one by one, each of which the output may refuse. A
channel decides what reaches the user: in JSON form nothing but the one document, in quiet form
nothing but that document.
-/

namespace Scaffold.Command

structure Channel where
  /-- The form of reports; it is never `auto`. -/
  format : OutputFormat
  quiet : Bool
  noColor : Bool
  deriving DecidableEq, Repr

def configuredFormat (name : String) : OutputFormat :=
  (OutputFormat.ofName? (String.ofList (name.toList.map Char.toLower))).getD .auto

namespace Channel

def requestedFormat (options : GlobalOptions) (settings : Settings) : OutputFormat :=
  match options.format with
  | .auto => configuredFormat settings.format
  | format => format

/-- The channel of a command; without any wish the form depends on where the output goes. -/
def ofOptions (options : GlobalOptions) (settings : Settings) (terminal : Bool) : Channel :=
  let format := match requestedFormat options settings with
    | .auto => if terminal then .human else .plain
    | format => format
  { format
    quiet := options.quiet
    noColor := options.noColor || settings.noColor || format != .human }

def isJson (channel : Channel) : Bool :=
  channel.format = .json

/-- Whether lines for the user are kept back. -/
def isSilent (channel : Channel) : Bool :=
  channel.quiet || channel.isJson

def line (channel : Channel) (text : String) : List String :=
  if channel.isSilent then [] else [text ++ "\n"]

def signed (channel : Channel) (color : String → String) (sign text : String) : List String :=
  channel.line <|
    if channel.noColor then sign ++ " " ++ text
    else Style.bold (color sign) ++ " " ++ color text

def success (channel : Channel) (text : String) : List String :=
  channel.signed Style.green "✓" text

def warning (channel : Channel) (text : String) : List String :=
  channel.signed Style.yellow "⚠" text

def info (channel : Channel) (text : String) : List String :=
  channel.signed Style.blue "ℹ" text

def header (channel : Channel) (text : String) : List String :=
  channel.line (if channel.noColor then text else Style.bold (Style.cyan text))

def document (json : Json) : String :=
  json.toText ++ "\n"

end Channel

def warningJson (warning : Patch.Warning) : Json :=
  .object
    [("path", .text warning.path), ("anchor", .text warning.anchor),
      ("note", .ofOption warning.note)]

def reportJson (runId : String) (report : Report) : Json :=
  .object
    [("run_id", .text runId), ("recipe", .text report.recipe),
      ("timestamp", .text report.stamp.text), ("written", .array (report.written.map .text)),
      ("patched", .text report.patched), ("anchor", .text report.anchor),
      ("warnings", .array (report.warnings.map warningJson)), ("dry_run", .bool report.dryRun)]

namespace Channel

def conclusion (channel : Channel) (report : Report) : List String :=
  if report.dryRun then channel.info "Dry run: nothing was written"
  else
    channel.success
      (report.recipe ++ " generator finished (" ++ toString report.written.length ++ " files)")

def report (channel : Channel) (runId : String) (report : Report) : List String :=
  if channel.isJson then [document (reportJson runId report)]
  else
    let wrote := if report.dryRun then "would write" else "wrote"
    let patched := if report.dryRun then "would patch" else "patched"
    report.warnings.flatMap (fun w => channel.warning w.message) ++
      report.written.flatMap (fun path => channel.line ("  " ++ wrote ++ " " ++ path)) ++
      channel.line
        ("  " ++ patched ++ " " ++ report.patched ++ " after " ++ Text.quote report.anchor) ++
      channel.conclusion report

def settings (channel : Channel) (settings : Settings) : List String :=
  if channel.isJson then [document settings.toJson]
  else channel.header "Current Configuration:" ++ channel.line settings.toToml

end Channel

section

variable {m : Type → Type} [Monad m]

/-- Prints texts one after the other: what the output took of them, and the trouble of the first
refusal, which ends it. -/
def printAll (host : Host m) : List String → m (String × Except Trouble Unit)
  | [] => return ("", .ok ())
  | text :: texts => do
    match ← host.print text with
    | .error refusal =>
      return (String.ofList (text.toList.take refusal.taken), .error (.ofSystem refusal.reason))
    | .ok () =>
      let (out, result) ← printAll host texts
      return (text ++ out, result)

end

end Scaffold.Command

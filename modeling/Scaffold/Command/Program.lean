import Scaffold.Command.Generate
import Scaffold.Command.Usage
import Scaffold.Text.Utf8
/-!
# The program

The program as a whole: it completes the environment from a file of variables, reads the command
line, loads the settings, carries out the command and reports a failure.
-/

namespace Scaffold.Command

variable {m : Type → Type} [Monad m]

/-- The directory of the user's settings: that of the environment if it is absolute, else the
usual one in the user's home. -/
def settingsDirectory? (environment : Settings.Variables) : Option Path :=
  match environment.lookup "HOME" with
  | none | some "" => none
  | some home =>
    match environment.lookup "XDG_CONFIG_HOME" with
    | some directory =>
      if (Path.mk directory).isAbsolute then some ⟨directory⟩ else some ((Path.mk home).join ⟨".config"⟩)
    | none => some ((Path.mk home).join ⟨".config"⟩)

def settingsPath (environment : Settings.Variables) : Path :=
  match settingsDirectory? environment with
  | some directory => (directory.join ⟨programName⟩).join ⟨"config.toml"⟩
  | none => ⟨".stitch.toml"⟩

/-- The text of a settings file; the byte order mark does not count. -/
def settingsText (content : ByteArray) : String :=
  let octets := content.toList
  Text.Utf8.decode <|
    if [0xEF, 0xBB, 0xBF].isPrefixOf octets then ⟨(octets.drop 3).toArray⟩ else content

def readSettings (host : Host m) (path : Path) : m (Except Settings.Fault (String × String)) := do
  match ← host.bytes? path with
  | some content => return .ok (path.text, settingsText content)
  | none => return .error (.malformed path.text)

def isToml (path : Path) : Bool :=
  match path.fileName? with
  | some name =>
    match Text.beforeSuffix? ".toml".toList name.toList with
    | some stem => !stem.isEmpty
    | none => false
  | none => false

def namedSettings (host : Host m) (working : Path) (name : String) :
    m (Except Settings.Fault (Option (String × String))) := do
  if !(← host.isFile ⟨name⟩) then return .error (.missingFile name)
  else if !isToml ⟨name⟩ then return .error (.unknownFormat (working.join ⟨name⟩).text)
  else return (← readSettings host ⟨name⟩).map some

/-- The default settings file, or one whose name has the ending twice, if there is any. -/
def usualSettings (host : Host m) (path : Path) :
    m (Except Settings.Fault (Option (String × String))) := do
  if ← host.isFile path then return (← readSettings host path).map some
  else if ← host.isFile ⟨path.raw ++ ".toml"⟩ then
    return (← readSettings host ⟨path.raw ++ ".toml"⟩).map some
  else return .ok none

def loadSettings (host : Host m) (working : Path) (environment : Settings.Variables)
    (options : GlobalOptions) : m (Except Settings.Fault Settings) := do
  let file ← match options.config with
    | some name => namedSettings host working name
    | none => usualSettings host (settingsPath environment)
  match file with
  | .ok file => return Settings.load file environment
  | .error fault => return .error fault

/-- The file of variables in a directory or in one above it, up to the given number. -/
def findVariables (host : Host m) : Nat → Path → m (Option Path)
  | 0, _ => return none
  | depth + 1, directory => do
    let path := directory.join ⟨".env"⟩
    if ← host.isFile path then return some path
    else
      match directory.parent? with
      | some parent => findVariables host depth parent
      | none => return none

def completeVariables (host : Host m) (working : Path) (environment : Settings.Variables) :
    m Settings.Variables := do
  match ← findVariables host (working.components.length + 1) working with
  | none => return environment
  | some path =>
    match ← host.bytes? path with
    | some content => return Settings.addFile environment content
    | none => return environment

def optionVariables (environment : Settings.Variables) : OptionVariables where
  noColor := environment.lookup "NO_COLOR"
  templates := environment.lookup "STITCH_TEMPLATES_DIR"

def perform (host : Host m) (channel : Channel) (settings : Settings) (now : Circumstances) :
    Action → m (String × Except Trouble Unit)
  | .auth options => generate host channel settings now options
  | .completions shell => printAll host [completionScript shell]
  | .config .list => printAll host (channel.settings settings)
  | .config .path => printAll host (channel.line (settingsPath now.environment).text)

def failed (now : Circumstances) (options : GlobalOptions) (noColor : Bool) (out : String)
    (trouble : Trouble) : Outcome where
  exitCode := trouble.exitCode
  out := out
  err :=
    let path := (settingsPath now.environment).text
    let verbose := options.verbose > 0
    if !noColor && now.errTerminal then trouble.colored path verbose
    else trouble.plain path verbose

/-- The outcome of a completion script that the output did not take, which ends the program at
once. -/
def aborted (out : String) : Outcome :=
  ⟨101, out, "failed to write completion file\n"⟩

def invoke (host : Host m) (working : Path) (now : Circumstances) (invocation : Invocation) :
    m Outcome := do
  let options := invocation.options
  match ← loadSettings host working now.environment options with
  | .error fault => return failed now options options.noColor "" (.ofFault fault)
  | .ok settings =>
    let channel := Channel.ofOptions options settings now.outTerminal
    match ← perform host channel settings now invocation.action with
    | (out, .ok ()) => return ⟨0, out, ""⟩
    | (out, .error trouble) =>
      return if invocation.action.isScript then aborted out
        else failed now options (options.noColor || settings.noColor) out trouble

/-- Reports that a command line is not carried out. Whether the report is taken does not matter. -/
def refuse (host : Host m) (e : UsageError) : m Outcome := do
  if e.isRequest then
    let (out, _) ← printAll host [e.message]
    return ⟨e.exitCode, out, ""⟩
  else return ⟨e.exitCode, "", e.message⟩

def program (host : Host m) (now : Circumstances) (args : List String) : m Outcome := do
  let working := match ← host.workingDirectory with
    | .ok path => path
    | .error _ => ⟨""⟩
  let environment ← completeVariables host working now.environment
  match parse (optionVariables environment) args with
  | .error e => refuse host e
  | .ok invocation => invoke host working { now with environment } invocation

end Scaffold.Command

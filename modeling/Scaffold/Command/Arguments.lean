import Scaffold.Command.Options
/-!
# Command lines

Reading a command line. A command line has levels: the program, a command, perhaps a command of
that command. Each level has its own options, and each accepts the options that are common to all;
of a common option given at two levels the inner one counts. An option is complete only when the
next one begins or the level ends, so a value that is missing or wrong is found then.
-/

namespace Scaffold.Command

inductive Opt where
  | verbose | quiet | noColor | config | format | help | version
  | root | migrations | templates | dryRun
  deriving DecidableEq, Repr

namespace Opt

def all : List Opt :=
  [verbose, quiet, noColor, config, format, help, version, root, migrations, templates, dryRun]

def long : Opt → String
  | verbose => "verbose"
  | quiet => "quiet"
  | noColor => "no-color"
  | config => "config"
  | format => "output-format"
  | help => "help"
  | version => "version"
  | root => "root"
  | migrations => "migrations-dir"
  | templates => "templates"
  | dryRun => "dry-run"

def short? : Opt → Option Char
  | verbose => some 'v'
  | quiet => some 'q'
  | config => some 'c'
  | help => some 'h'
  | version => some 'V'
  | root => some 'r'
  | _ => none

def takesValue : Opt → Bool
  | config | format | root | migrations | templates => true
  | _ => false

end Opt

inductive Level where
  | program | auth | completions | config | configList | configPath
  deriving DecidableEq, Repr

inductive Subcommand where
  | help
  | enter (level : Level)
  deriving DecidableEq, Repr

namespace Level

def offers : Level → Opt → Bool
  | program, .version => true
  | _, .version => false
  | auth, .root | auth, .migrations | auth, .templates | auth, .dryRun => true
  | _, .root | _, .migrations | _, .templates | _, .dryRun => false
  | _, _ => true

def longOption? (level : Level) (name : String) : Option Opt :=
  Opt.all.find? fun o => level.offers o && o.long = name

def shortOption? (level : Level) (letter : Char) : Option Opt :=
  Opt.all.find? fun o => level.offers o && o.short? = some letter

def subcommand? : Level → String → Option Subcommand
  | program, "auth" => some (.enter auth)
  | program, "completions" => some (.enter completions)
  | program, "config" => some (.enter config)
  | program, "help" => some .help
  | config, "list" => some (.enter configList)
  | config, "path" => some (.enter configPath)
  | config, "help" => some .help
  | _, _ => none

def needsSubcommand : Level → Bool
  | program | config => true
  | _ => false

/-- Whether a level that has some values accepts one more. -/
def acceptsValue : Level → Nat → Bool
  | auth, _ => true
  | completions, count => count = 0
  | _, _ => false

end Level

structure Given where
  /-- How often more detail was asked for, at most 255 times. -/
  verbose : Nat := 0
  quiet : Bool := false
  noColor : Bool := false
  config : Option String := none
  format : Option OutputFormat := none
  root : Option String := none
  migrations : Option String := none
  templates : Option String := none
  dryRun : Bool := false
  shell : Option Shell := none
  values : List String := []
  deriving DecidableEq, Repr

namespace Given

/-- The value of an option that was not given before; a path must not be empty. -/
def setValue (old : Option String) (emptyAllowed : Bool) (value : String) :
    Except UsageError (Option String) :=
  if old.isSome then .error .conflict
  else if value = "" ∧ !emptyAllowed then .error .invalidValue
  else .ok (some value)

def setSwitch (old : Bool) : Except UsageError Bool :=
  if old then .error .conflict else .ok true

def addSwitch (given : Given) : Opt → Except UsageError Given
  | .verbose => .ok { given with verbose := min (given.verbose + 1) 255 }
  | .quiet => do return { given with quiet := ← setSwitch given.quiet }
  | .noColor => do return { given with noColor := ← setSwitch given.noColor }
  | .dryRun => do return { given with dryRun := ← setSwitch given.dryRun }
  | .help => .error .help
  | .version => .error .version
  | _ => .error .invalidValue

def addValue (given : Given) (value : String) : Opt → Except UsageError Given
  | .config => do return { given with config := ← setValue given.config false value }
  | .root => do return { given with root := ← setValue given.root false value }
  | .templates => do return { given with templates := ← setValue given.templates false value }
  | .migrations => do return { given with migrations := ← setValue given.migrations true value }
  | .format =>
    if given.format.isSome then .error .conflict
    else
      match OutputFormat.ofName? value with
      | some format => .ok { given with format := some format }
      | none => .error .invalidValue
  | _ => .error .tooManyValues

/-- Takes values that are not options: attributes, or the name of a shell. -/
def addWords (given : Given) (level : Level) (words : List String) : Except UsageError Given :=
  match level, words with
  | .completions, word :: _ =>
    match Shell.ofName? word with
    | some shell => .ok { given with shell := some shell, values := given.values ++ words }
    | none => .error .invalidValue
  | _, _ => .ok { given with values := given.values ++ words }

def isAny (given : Given) : Bool :=
  given != {}

/-- The common options of an inner level, completed by those of the level around it. -/
def within (inner outer : Given) : Given :=
  { inner with
    verbose := if inner.verbose = 0 then outer.verbose else inner.verbose
    quiet := inner.quiet || outer.quiet
    noColor := inner.noColor || outer.noColor
    config := inner.config.or outer.config
    format := inner.format.or outer.format }

end Given

/-- What was begun but is not complete. -/
inductive Pending where
  | nothing
  /-- An option, with its value if that was read. -/
  | option (opt : Opt) (value : Option String)
  | words (words : List String)
  deriving DecidableEq, Repr

structure Reading where
  given : Given := {}
  pending : Pending := .nothing
  /-- Two dashes were read, after which there are no options. -/
  literal : Bool := false
  deriving DecidableEq, Repr

namespace Reading

def settle (r : Reading) (level : Level) : Except UsageError Reading :=
  match r.pending with
  | .nothing => .ok r
  | .option _ none => .error .invalidValue
  | .option opt (some value) => do
    return { r with given := ← r.given.addValue value opt, pending := .nothing }
  | .words words => do
    return { r with given := ← r.given.addWords level words, pending := .nothing }

def awaitsValue (r : Reading) : Bool :=
  match r.pending with
  | .option _ none => true
  | _ => false

def wordCount (r : Reading) : Nat :=
  r.given.values.length +
    match r.pending with
    | .words words => words.length
    | _ => 0

def takeValue (r : Reading) (value : String) : Reading :=
  match r.pending with
  | .option opt none => { r with pending := .option opt (some value) }
  | _ => r

def takeOption (r : Reading) (level : Level) (opt : Opt) : Except UsageError Reading := do
  let r ← r.settle level
  if opt.takesValue then return { r with pending := .option opt none }
  else return { r with given := ← r.given.addSwitch opt }

def takeAttached (r : Reading) (level : Level) (opt : Opt) (value : String) :
    Except UsageError Reading := do
  if !opt.takesValue then .error .tooManyValues
  let r ← r.settle level
  return { r with given := ← r.given.addValue value opt }

def takeLong (r : Reading) (level : Level) (name : String) (attached : Option String) :
    Except UsageError Reading :=
  match level.longOption? name, attached with
  | none, _ => .error .unknownArgument
  | some opt, none => r.takeOption level opt
  | some opt, some value => r.takeAttached level opt value

/-- Takes letters of options; what follows a letter whose option has a value is that value. -/
def takeLetters (r : Reading) (level : Level) : List Char → Except UsageError Reading
  | [] => .ok r
  | letter :: letters =>
    match level.shortOption? letter with
    | none => .error .unknownArgument
    | some opt =>
      if opt.takesValue then
        match letters with
        | [] => r.takeOption level opt
        | '=' :: value => r.takeAttached level opt (String.ofList value)
        | value => r.takeAttached level opt (String.ofList value)
      else do (← r.takeOption level opt).takeLetters level letters

def strayFault (r : Reading) (level : Level) (word : String) : UsageError :=
  if level.needsSubcommand && !(r.literal && (level.subcommand? word).isSome) then
    .unknownSubcommand
  else .unknownArgument

/-- Takes a word that is no option. The fault of a word that is not accepted comes before any fault
of what is pending. -/
def takeWord (r : Reading) (level : Level) (word : String) : Except UsageError Reading :=
  if level.acceptsValue r.wordCount then
    match r.pending with
    | .words words => .ok { r with pending := .words (words ++ [word]) }
    | _ => do return { ← r.settle level with pending := .words [word] }
  else .error (r.strayFault level word)

end Reading

inductive Argument where
  | dashes
  /-- The name of an option, with what is attached by an equals sign. -/
  | long (name : String) (attached : Option String)
  | cluster (letters : List Char)
  /-- Anything else, a single dash included. -/
  | word
  deriving DecidableEq, Repr

def cutAtEquals : List Char → List Char × Option (List Char)
  | [] => ([], none)
  | '=' :: rest => ([], some rest)
  | c :: rest =>
    let (name, attached) := cutAtEquals rest
    (c :: name, attached)

def Argument.ofText (text : String) : Argument :=
  match text.toList with
  | ['-', '-'] => .dashes
  | '-' :: '-' :: rest =>
    let (name, attached) := cutAtEquals rest
    .long (String.ofList name) (attached.map String.ofList)
  | ['-'] => .word
  | '-' :: letters => .cluster letters
  | _ => .word

structure OptionVariables where
  noColor : Option String := none
  templates : Option String := none
  deriving DecidableEq, Repr

/-- Whether the text of a switch variable turns the switch on. -/
def isOn (text : String) : Bool :=
  !(["", "n", "no", "f", "false", "off", "0"].contains
    (String.ofList (text.toList.map Char.toLower)))

def helpOn : Level → List String → UsageError
  | _, [] => .help
  | level, word :: words =>
    match level.subcommand? word with
    | some (.enter inner) => helpOn inner words
    | some .help => if words.isEmpty then .help else .unknownSubcommand
    | none => .unknownSubcommand

/-- What was given at a level, completed from the variables. -/
def addVariables (vars : OptionVariables) (level : Level) (given : Given) :
    Except UsageError Given :=
  match level, vars.templates, given.templates with
  | .auth, some value, none => given.addValue value .templates
  | _, _, _ => .ok given

def lastAction (level : Level) (given : Given) : Except UsageError Action :=
  match level with
  | .auth =>
    .ok (.auth ⟨given.values, given.root, given.migrations, given.templates, given.dryRun⟩)
  | .completions =>
    match given.shell with
    | some shell => .ok (.completions shell)
    | none => .error .missingArgument
  | .configList => .ok (.config .list)
  | .configPath => .ok (.config .path)
  | .program | .config => .error .missingSubcommand

/-- Refuses silence together with detail. -/
def checkConflict (given : Given) : Except UsageError Unit :=
  if given.quiet ∧ given.verbose > 0 then .error .conflict else .ok ()

def endLevel (vars : OptionVariables) (level : Level) (r : Reading) :
    Except UsageError (Given × Action) := do
  let r ← r.settle level
  let given ← addVariables vars level r.given
  if level.needsSubcommand && !given.isAny && vars.noColor.isNone then .error .nothingGiven
  if level.needsSubcommand then .error .missingSubcommand
  checkConflict given
  return (given, ← lastAction level given)

/-- The end of a level around another one. -/
def endOuter (level : Level) (r : Reading) (inner : Given × Action) :
    Except UsageError (Given × Action) := do
  let r ← r.settle level
  checkConflict r.given
  return (inner.1.within r.given, inner.2)

def takeArgument (level : Level) (r : Reading) (text : String) : Except UsageError Reading :=
  if r.literal then r.takeWord level text
  else
    match Argument.ofText text with
    | .dashes => .ok { r with literal := true }
    | .long name attached => r.takeLong level name attached
    | .cluster letters => r.takeLetters level letters
    | .word => if r.awaitsValue then .ok (r.takeValue text) else r.takeWord level text

def commandAt? (level : Level) (r : Reading) (text : String) : Option Subcommand :=
  if r.literal || r.awaitsValue then none else level.subcommand? text

def readLevel (vars : OptionVariables) : Level → Reading → List String →
    Except UsageError (Given × Action)
  | level, r, [] => endLevel vars level r
  | level, r, text :: rest =>
    match commandAt? level r text with
    | some .help => .error (helpOn level rest)
    | some (.enter inner) => do endOuter level r (← readLevel vars inner {} rest)
    | none => do readLevel vars level (← takeArgument level r text) rest

/-- The common options, completed from the variables and by their defaults. -/
def globalOptions (vars : OptionVariables) (given : Given) : GlobalOptions where
  verbose := given.verbose
  quiet := given.quiet
  noColor := given.noColor || vars.noColor.any isOn
  config := given.config
  format := given.format.getD .auto

def parse (vars : OptionVariables) (args : List String) : Except UsageError Invocation := do
  let (given, action) ← readLevel vars .program {} args
  return ⟨globalOptions vars given, action⟩

end Scaffold.Command

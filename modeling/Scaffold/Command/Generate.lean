import Scaffold.Command.Output
import Scaffold.Recipe.Auth
/-!
# Generating authentication

The command that generates authentication. Everything the user said is checked before the first
file is touched.
-/

namespace Scaffold.Command

variable {m : Type → Type} [Monad m]

/-- The directory of the application: that of the command line, else that of the settings, else
the working directory. Without one on the command line the working directory must be known, even
where the settings name another one. -/
def chosenRoot (host : Host m) (options : AuthOptions) (settings : Settings) :
    m (Except Trouble Path) :=
  match options.root with
  | some root => return .ok ⟨root⟩
  | none => do
    match ← host.workingDirectory with
    | .error message => return .error (.ofSystem message)
    | .ok working =>
      match settings.root with
      | some root => return .ok ⟨root⟩
      | none => return .ok working

def findRoot (host : Host m) (options : AuthOptions) (settings : Settings) :
    m (Except Trouble Path) := do
  match ← chosenRoot host options settings with
  | .error trouble => return .error trouble
  | .ok root =>
    match ← host.directory? root with
    | some path => return .ok path
    | none => return .error (.rootNotFound root.text)

/-- The directory of migrations must not be blank or absolute. It may still lie outside the root. -/
def checkMigrations (directory : String) : Except Trouble Unit :=
  if Text.isBlankText directory.toList then
    .error (.invalidInput "migrations directory must not be empty" none)
  else if (Path.mk directory).isAbsolute then
    .error (.invalidInput
      ("migrations directory must be relative to the root: " ++ directory) none)
  else .ok ()

/-- The templates that are used: those of the command line, else those of the settings, else the
bundled ones. -/
def chosenTemplates (host : Host m) (options : AuthOptions) (settings : Settings) :
    TemplateSource m :=
  match options.templates.or settings.templates with
  | some directory => .ofDirectory host.listTemplates ⟨directory⟩
  | none => .auth

structure Prepared where
  migrations : String
  request : Request

def prepare (host : Host m) (options : AuthOptions) (settings : Settings) :
    m (Except Trouble Prepared) := do
  match ← findRoot host options settings with
  | .error trouble => return .error trouble
  | .ok root =>
    let migrations := options.migrations.getD settings.migrations
    match checkMigrations migrations, AttributeSet.ofSpecs options.attributes with
    | .error trouble, _ => return .error trouble
    | .ok (), .error failure => return .error (.generation failure)
    | .ok (), .ok attributes =>
      match ← Project.discover host.files root with
      | .error failure => return .error (.generation failure)
      | .ok project => return .ok ⟨migrations, ⟨root, project, attributes, options.dryRun⟩⟩

def announcement (channel : Channel) (root : Path) (source : TemplateSource m) : List String :=
  channel.info ("Generating auth into " ++ root.text ++ " from " ++ source.describe)

/-- Generates authentication: what is printed, also if the command fails, and whether it does. -/
def generate (host : Host m) (channel : Channel) (settings : Settings) (now : Circumstances)
    (options : AuthOptions) : m (String × Except Trouble Unit) := do
  match ← prepare host options settings with
  | .error trouble => return ("", .error trouble)
  | .ok prepared =>
    let source := chosenTemplates host options settings
    match ← printAll host (announcement channel prepared.request.root source) with
    | (out, .error trouble) => return (out, .error trouble)
    | (out, .ok ()) =>
      match ← run host.files source host.render (Recipe.auth prepared.migrations)
          prepared.request now.stamp with
      | .error failure => return (out, .error (.generation failure))
      | .ok report =>
        let (rest, result) ← printAll host (channel.report now.runId report)
        return (out ++ rest, result)

end Scaffold.Command

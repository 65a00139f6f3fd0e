import Scaffold.Recipe.Basic
import Scaffold.Templates
/-!
# Runs

A run of a generator. Every template goes through the stages of the recipe and the patch of the
setup file is computed before anything is written. Then the generated files are written in order,
and the patched setup file last. A dry run does all but the writing.
-/

namespace Scaffold

structure Request where
  root : Path
  project : Project
  attributes : AttributeSet
  dryRun : Bool
  deriving DecidableEq, Repr

structure Report where
  recipe : String
  stamp : Stamp
  /-- The paths of the generated files in the order in which they are written. -/
  written : List String
  patched : String
  anchor : String
  warnings : List Patch.Warning
  dryRun : Bool
  deriving DecidableEq, Repr

namespace Run

/-- The generated files: each template after all stages of the recipe. -/
def outputs (recipe : Recipe) (render : Renderer) (request : Request) (stamp : Stamp)
    (templates : List Draft) : Except Failure (List Draft) :=
  templates.mapM
    (Stage.applyAll (recipe.stages render ⟨request.project, request.attributes⟩ stamp))

def placeOf (root : Path) (output : Draft) : Path :=
  root.join output.path.path

def changesFor (root : Path) (output : Draft) : List Change :=
  let path := placeOf root output
  (path.parent?.map Change.createDirs).toList ++ [.write path output.content]

def setupPath (recipe : Recipe) (root : Path) : Path :=
  root.join ⟨recipe.patch.target⟩

/-- All changes of a run: the generated files in order, then the setup file. -/
def plan (recipe : Recipe) (root : Path) (outputs : List Draft) (setup : String) : List Change :=
  outputs.flatMap (changesFor root) ++ [.write (setupPath recipe root) setup.toUTF8]

def report (recipe : Recipe) (request : Request) (stamp : Stamp) (outputs : List Draft)
    (patch : Patch.Outcome) : Report where
  recipe := recipe.name
  stamp := stamp
  written := outputs.map (·.path.toSlash)
  patched := recipe.patch.target
  anchor := patch.anchor.marker
  warnings := patch.warning.toList
  dryRun := request.dryRun

variable {m : Type → Type} [Monad m]

/-- The patch of the setup file, computed from the text it has now. -/
def readPatch (files : Filesystem m) (recipe : Recipe) (root : Path) :
    m (Except Failure Patch.Outcome) := do
  let path := setupPath recipe root
  if ← files.contains path then
    match ← files.readText path with
    | .ok text => return recipe.patch.apply text
    | .error failure => return .error failure
  else return .error (.targetNotFound path.text)

def finish (files : Filesystem m) (recipe : Recipe) (request : Request) (stamp : Stamp)
    (outputs : List Draft) (patch : Patch.Outcome) : m (Except Failure Report) := do
  let report := report recipe request stamp outputs patch
  if request.dryRun then return .ok report
  match ← files.performAll (plan recipe request.root outputs patch.content) with
  | .ok () => return .ok report
  | .error failure => return .error failure

end Run

def run {m : Type → Type} [Monad m] (files : Filesystem m) (source : TemplateSource m)
    (render : Renderer) (recipe : Recipe) (request : Request) (stamp : Stamp) :
    m (Except Failure Report) := do
  match ← source.drafts with
  | .error failure => return .error failure
  | .ok templates =>
    match Run.outputs recipe render request stamp templates with
    | .error failure => return .error failure
    | .ok outputs =>
      match ← Run.readPatch files recipe request.root with
      | .error failure => return .error failure
      | .ok patch => Run.finish files recipe request stamp outputs patch

end Scaffold

import Scaffold.Text.Quoted
/-!
# Failures

Why an operation of the generator fails. Each cause has a message, a category and suggestions for
the user; the wording of all of them is in this module.
-/

namespace Scaffold

/-- What a failure means to the user. -/
inductive Category where
  | validation
  | notFound
  | configuration
  | internal
  deriving DecidableEq, Repr

inductive Failure where
  | invalidAttribute (spec reason : String)
  | absolutePath (path : String)
  | markerNotFound (path marker : String)
  | anchorNotFound (path : String) (attempted : List String)
  | renderingFailed (path reason : String)
  | targetNotFound (path : String)
  | filesystem (path reason : String)
  | templateSource (reason : String)
  /-- The state of a store can no longer be trusted. -/
  | storeLocked
  deriving DecidableEq, Repr

namespace Failure

def message : Failure → String
  | invalidAttribute spec reason => "invalid attribute '" ++ spec ++ "': " ++ reason
  | absolutePath path => "Absolute paths not allowed: " ++ path
  | markerNotFound path marker => "marker " ++ Text.quote marker ++ " not found in " ++ path
  | anchorNotFound path attempted =>
    "setup target not found in " ++ path ++ ": tried " ++
      String.intercalate ", " (attempted.map Text.quote)
  | renderingFailed path reason => "failed to render " ++ path ++ ": " ++ reason
  | targetNotFound path => "setup file not found: " ++ path
  | filesystem path reason => "Filesystem error at " ++ path ++ ": " ++ reason
  | templateSource reason => "Template source error: " ++ reason
  | storeLocked => "Adapter state lock poisoned"

def suggestions : Failure → List String
  | invalidAttribute spec reason =>
    ["Could not parse '" ++ spec ++ "': " ++ reason,
      "Attributes are written as name:type, e.g. age:int or nickname:nulls.string",
      "The type may be omitted and defaults to string"]
  | absolutePath _ => ["Template paths must be relative to the project root"]
  | markerNotFound path marker =>
    ["The generated file " ++ path ++ " has no line containing " ++ Text.quote marker,
      "The template tree is out of sync with the field injection marker",
      "Please report this issue"]
  | anchorNotFound path attempted =>
    ["None of these lines were found in " ++ path ++ ":"] ++
      attempted.map ("  • " ++ ·) ++
      ["Add one of them back where the app is configured, then re-run"]
  | renderingFailed path _ =>
    ["The template for " ++ path ++ " is broken",
      "If you use --templates, check the template syntax",
      "Otherwise this is a bug in the bundled templates, please report it"]
  | targetNotFound path =>
    ["Expected an existing file at " ++ path,
      "Run stitch from the root of the application, or pass --root"]
  | filesystem path _ =>
    ["Failed to access: " ++ path, "Check that the file exists and you have write permissions"]
  | templateSource _ => ["Check the --templates directory or STITCH_TEMPLATES_DIR"]
  | storeLocked => ["Check the error details above"]

def category : Failure → Category
  | invalidAttribute .. => .validation
  | markerNotFound .. | anchorNotFound .. | targetNotFound .. => .notFound
  | templateSource .. => .configuration
  | absolutePath .. | renderingFailed .. | filesystem .. | storeLocked => .internal

end Failure

end Scaffold

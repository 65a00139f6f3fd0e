import Scaffold.Settings.Basic
import Scaffold.Text.Blank
import Scaffold.Toml.Reader
/-!
# Layers of settings

Settings from layers. The defaults come first, then the settings file, then the variables of the
environment; each layer replaces single values of the one below, and tables are merged. A value
may be written as any scalar that can be read as what is expected.
-/

namespace Scaffold.Settings

open Text Toml

def defaultTable : Value :=
  .table
    [("generator", .table [("migrations_dir", .text default.migrations)]),
      ("output", .table [("no_color", .boolean default.noColor), ("format", .text default.format)])]

mutual

/-- Gives a name a value; tables are merged. -/
def assign (name : String) : Value → Value → Value
  | .table incoming, target =>
    .table (setEntry name (assignAll incoming ((target.get? name).getD (.table []))) target.entries)
  | v, target => .table (setEntry name v target.entries)

def assignAll : List (String × Value) → Value → Value
  | [], target => target
  | (name, v) :: rest, target => assignAll rest (assign name v target)

end

def assignPath (v : Value) : List String → Value → Value
  | [], target => target
  | [name], target => assign name v target
  | name :: names, target =>
    .table (setEntry name (assignPath v names ((target.get? name).getD (.table []))) target.entries)

def isPathCharacter (c : Char) : Bool :=
  c.isAlphanum || c = '_' || c = '-'

/-- The path that a key stands for: names between dots, or the key itself. -/
def pathOf (key : List Char) : List String :=
  let names := fields '.' key
  if names.all fun name => !name.isEmpty && name.all isPathCharacter then
    names.map String.ofList
  else [String.ofList key]

def addLayer (below : Value) (layer : List (String × Value)) : Value :=
  layer.foldl (fun target e => assignPath e.2 (pathOf e.1.toList) target) below

/-- The text with every `__` replaced by a dot. -/
def dotted : List Char → List Char
  | '_' :: '_' :: cs => '.' :: dotted cs
  | c :: cs => c :: dotted cs
  | [] => []

/-- The key that a variable sets, if it sets one. -/
def keyOf? (variableName : String) : Option String :=
  (afterPrefix? "stitch__".toList (lower variableName.toList)).map fun key =>
    String.ofList (dotted key)

def variableLayer (environment : List (String × String)) : List (String × Value) :=
  environment.filterMap fun (name, value) => (keyOf? name).map fun key => (key, .text value)

def optionOf? (v : Option Value) : Option (Option String) :=
  match v with
  | none => some none
  | some v => v.text?.map some

def ofTable? (v : Value) : Option Settings := do
  let .table generator ← v.get? "generator" | none
  let .table output ← v.get? "output" | none
  return {
    root := ← optionOf? (generator.lookup "root")
    templates := ← optionOf? (generator.lookup "templates_dir")
    migrations := ← (← generator.lookup "migrations_dir").text?
    noColor := ← (← output.lookup "no_color").truth?
    format := ← (← output.lookup "format").text? }

inductive Fault where
  | missingFile (path : String)
  | unknownFormat (path : String)
  | malformed (path : String)
  | unfit
  deriving DecidableEq, Repr

def Fault.causes : Fault → List String
  | missingFile path => ["configuration file not found: " ++ path]
  | unknownFormat path =>
    ["Failed to read configuration",
      "configuration file \"" ++ path ++ "\" is not of a registered file format"]
  | malformed path => ["Failed to read configuration", "malformed TOML document in " ++ path]
  | unfit => ["Invalid configuration", "a value has the wrong type"]

def Fault.message (fault : Fault) : String :=
  String.intercalate ": " fault.causes

def load (file : Option (String × String)) (environment : List (String × String)) :
    Except Fault Settings := do
  let layer ← match file with
    | none => .ok []
    | some (path, text) =>
      match Toml.parse text with
      | some v => .ok v.entries
      | none => .error (.malformed path)
  match ofTable? (addLayer (addLayer defaultTable layer) (variableLayer environment)) with
  | some settings => .ok settings
  | none => .error .unfit

end Scaffold.Settings

import Scaffold.Json
import Scaffold.Toml.Quoted
/-!
# Settings

The settings of the program, their defaults, and how they are shown: as a TOML document, in which
unset options are left out, and as a JSON document, in which they are null.
-/

namespace Scaffold

structure Settings where
  root : Option String
  templates : Option String
  migrations : String
  noColor : Bool
  format : String
  deriving DecidableEq, Repr

namespace Settings

def default : Settings := ⟨none, none, "migrations", false, "auto"⟩

def tomlLine (key : String) (v : List Char) : List Char :=
  key.toList ++ [' ', '=', ' '] ++ v ++ ['\n']

def tomlOption (key : String) : Option String → List Char
  | some text => tomlLine key (Toml.writeQuoted text.toList)
  | none => []

def toToml (settings : Settings) : String :=
  String.ofList <|
    "[generator]\n".toList ++
      tomlOption "root" settings.root ++
      tomlOption "templates_dir" settings.templates ++
      tomlLine "migrations_dir" (Toml.writeQuoted settings.migrations.toList) ++
      "\n[output]\n".toList ++
      tomlLine "no_color" (if settings.noColor then "true" else "false").toList ++
      tomlLine "format" (Toml.writeQuoted settings.format.toList)

def toJson (settings : Settings) : Json :=
  .object
    [("generator", .object
        [("root", .ofOption settings.root), ("templates_dir", .ofOption settings.templates),
          ("migrations_dir", .text settings.migrations)]),
      ("output", .object
        [("no_color", .bool settings.noColor), ("format", .text settings.format)])]

end Settings

end Scaffold

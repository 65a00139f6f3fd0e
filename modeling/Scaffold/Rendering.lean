import Scaffold.Attribute.Set
import Scaffold.Project
import Scaffold.Template.Eval
/-!
# Rendering

Rendering a template for a project and its attributes. A template sees the project as `app`, the
attributes as `attrs`, in the order of the set, and the function `option`. Nothing that is inserted
is escaped or read again.
-/

namespace Scaffold

open Template

structure Context where
  project : Project
  attributes : AttributeSet
  deriving DecidableEq, Repr

/-- A way of rendering: the slash form of a template's path, its text, and what it sees. -/
abbrev Renderer := String → String → Context → Except Failure String

def Template.Value.ofFields (fields : List (String × Value)) : Value :=
  .map (fields.map fun (key, v) => (.str key, v))

/-- The project as templates see it. A root that is not text cannot be handed over, so the templates
that use it fail. -/
def Project.toValue (project : Project) : Value :=
  .ofFields <|
    [("name", .str project.name), ("module_path", .str project.modulePath)] ++
      (project.root.raw.text?.map fun root => ("root", Value.str root)).toList

def Attribute.toValue (a : Attribute) : Value :=
  .ofFields
    [("name", .str a.name), ("display_name", .str a.displayName),
      ("normalized", .str a.normalized), ("type_tag", .str a.typeTag),
      ("go_type", .str a.fieldType), ("column_type", .str a.columnType),
      ("nullable", .bool a.isNullable)]

def Context.names (context : Context) : List (String × Value) :=
  [("app", context.project.toValue), ("attrs", .seq (context.attributes.toList.map (·.toValue)))]

def Template.Fault.message (fault : Fault) : String :=
  fault.cause.message ++ " (line " ++ toString fault.line ++ ")"

def renderTemplate : Renderer := fun path source context =>
  match Template.render source context.names with
  | .ok text => .ok text
  | .error fault => .error (.renderingFailed path fault.message)

end Scaffold

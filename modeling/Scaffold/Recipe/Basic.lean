import Scaffold.Patch
import Scaffold.Stage
/-!
# Recipes

Recipes: what distinguishes one generator from another. A recipe says which stages turn its
templates into files and how the setup file of the project is patched; it holds data only.
-/

namespace Scaffold

structure Injection where
  target : String
  marker : String
  row : Attribute → String

/-- Which drafts are moved into one directory, with the stamp of the run before their name. -/
structure Move where
  ending : String
  directory : String
  deriving DecidableEq, Repr

structure Recipe where
  name : String
  injection : Option Injection
  /-- Endings of paths that are replaced, each with its replacement, in order. -/
  renames : List (String × String)
  move : Option Move
  patch : Patch.Request

/-- The stages of a recipe: rendering first, then injection, renames and the move. -/
def Recipe.stages (recipe : Recipe) (render : Renderer) (context : Context) (stamp : Stamp) :
    List Stage :=
  [.substitution render context] ++
    (recipe.injection.map fun i =>
      .injection i.target i.marker (context.attributes.toList.map i.row)).toList ++
    recipe.renames.map (fun (old, new) => .rename old new) ++
    (recipe.move.map fun m => .relocation m.ending m.directory stamp).toList

end Scaffold

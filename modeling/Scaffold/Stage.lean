import Scaffold.Draft
import Scaffold.Rendering
import Scaffold.Stamp
import Scaffold.Text.Line
/-!
# Stages

Stages: the steps that turn a template into a generated file. A draft goes through the stages of a
recipe in order. Each stage changes either the content or the path of the drafts it concerns and
passes all others through.
-/

namespace Scaffold

open Text

inductive Stage where
  | substitution (render : Renderer) (context : Context)
  | injection (target marker : String) (rows : List String)
  | rename (old new : String)
  | relocation (ending directory : String) (stamp : Stamp)

namespace Stage

def name : Stage → String
  | substitution .. => "substitution"
  | injection .. => "field-injection"
  | rename .. => "extension-rename"
  | relocation .. => "relocation"

def substitute (render : Renderer) (context : Context) (draft : Draft) : Except Failure Draft :=
  match draft.text? with
  | none => .ok draft
  | some source =>
    match render draft.path.toSlash source context with
    | .ok text => .ok (draft.withText text)
    | .error failure => .error failure

/-- The text with rows after the first line that holds the marker, if there is one. -/
def insertRows? (marker : String) (rows : List String) (text : String) : Option String :=
  (Line.find? marker.toList text.toList).map fun line =>
    String.ofList (Line.insertAfter text.toList line (rows.map String.toList))

/-- Inserts rows into the draft at the target, which must be text that holds the marker. -/
def inject (target marker : String) (rows : List String) (draft : Draft) : Except Failure Draft :=
  if draft.isAt target then
    match draft.text?.bind (insertRows? marker rows) with
    | some text => .ok (draft.withText text)
    | none => .error (.markerNotFound draft.path.toSlash marker)
  else .ok draft

/-- Replaces the ending of a path; an empty ending is never replaced. -/
def renameEnding (old new : String) (draft : Draft) : Except Failure Draft :=
  if old = "" then .ok draft
  else
    match beforeSuffix? old.toList draft.path.toSlash.toList with
    | some stem => draft.withPath (String.ofList stem ++ new)
    | none => .ok draft

def bareDirectory (directory : String) : List Char :=
  dropEndWhile (· = '/') directory.toList

/-- The path of a file in a directory, a stamp standing before its name. -/
def stampedPath (directory : String) (stamp : Stamp) (name : String) : String :=
  let directory := bareDirectory directory
  let name := stamp.text ++ "_" ++ name
  if directory.isEmpty then name else String.ofList directory ++ "/" ++ name

def relocate (ending directory : String) (stamp : Stamp) (draft : Draft) : Except Failure Draft :=
  if draft.hasSuffix ending then
    draft.withPath (stampedPath directory stamp (draft.path.fileName?.getD ""))
  else .ok draft

def apply : Stage → Draft → Except Failure Draft
  | substitution render context, draft => substitute render context draft
  | injection target marker rows, draft => inject target marker rows draft
  | rename old new, draft => renameEnding old new draft
  | relocation ending directory stamp, draft => relocate ending directory stamp draft

def applyAll : List Stage → Draft → Except Failure Draft
  | [], draft => .ok draft
  | stage :: stages, draft =>
    match stage.apply draft with
    | .ok next => applyAll stages next
    | .error failure => .error failure

/-- The draft before the stages and after each of them, up to the first failure. -/
def history : List Stage → Draft → List (Except Failure Draft)
  | [], draft => [.ok draft]
  | stage :: stages, draft =>
    .ok draft ::
      match stage.apply draft with
      | .ok next => history stages next
      | .error failure => [.error failure]

end Stage

end Scaffold

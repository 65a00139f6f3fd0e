import Scaffold.Failure
import Scaffold.Text.Blank
import Scaffold.Text.Line
/-!
# Patches

Patching a hand-edited file. The file is never parsed: an anchor is a literal piece of text, and
the payload is inserted after the first line that holds the first anchor found, anchors being tried
in order of priority. Applying the same request twice inserts the payload twice.
-/

namespace Scaffold.Patch

open Text

/-- A literal marker that locates an insertion point, with a note shown when it is used as a
fallback. -/
structure Anchor where
  marker : String
  note : Option String
  deriving DecidableEq, Repr

structure Request where
  target : String
  primary : Anchor
  fallbacks : List Anchor
  payload : List String
  /-- Put between the anchor line's own indentation and each line that is not blank. -/
  indent : String
  deriving DecidableEq, Repr

def defaultIndent : String := "\t"

def Request.anchors (request : Request) : List Anchor :=
  request.primary :: request.fallbacks

/-- Issued when a file was patched at a fallback anchor. -/
structure Warning where
  path : String
  anchor : String
  note : Option String
  deriving DecidableEq, Repr

def Warning.message (warning : Warning) : String :=
  warning.path ++ " was patched at legacy anchor " ++ quote warning.anchor ++
    "; the project may have been scaffolded by an older version" ++
    match warning.note with
    | some note => " (" ++ note ++ ")"
    | none => ""

structure Outcome where
  content : String
  /-- The position of the anchor found among the anchors of the request. -/
  anchorIndex : Nat
  anchor : Anchor
  line : Nat
  warning : Option Warning
  deriving DecidableEq, Repr

/-- The first of some anchors, numbered from `index`, that a text holds, with its line. -/
def locate? (content : List Char) : Nat → List Anchor → Option (Nat × Anchor × Nat)
  | _, [] => none
  | index, anchor :: anchors =>
    match Line.find? anchor.marker.toList content with
    | some line => some (index, anchor, line)
    | none => locate? content (index + 1) anchors

/-- A payload line as it is inserted: empty if it is blank, indented otherwise. -/
def row (base indent line : List Char) : List Char :=
  if isBlankText line then [] else base ++ indent ++ line

def Request.rows (request : Request) (base : List Char) : List (List Char) :=
  request.payload.map fun line => row base request.indent.toList line.toList

def Request.apply (request : Request) (content : String) : Except Failure Outcome :=
  let text := content.toList
  match locate? text 0 request.anchors with
  | none => .error (.anchorNotFound request.target (request.anchors.map (·.marker)))
  | some (index, anchor, line) =>
    let base := (Line.get? text line).elim [] Line.indentation
    .ok {
      content := String.ofList (Line.insertAfter text line (request.rows base))
      anchorIndex := index
      anchor := anchor
      line := line
      warning :=
        if index = 0 then none else some ⟨request.target, anchor.marker, anchor.note⟩ }

end Scaffold.Patch

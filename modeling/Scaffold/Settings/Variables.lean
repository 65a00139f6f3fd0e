import Scaffold.Text.Blank
import Scaffold.Text.Letter
import Scaffold.Text.Line
/-!
# Files of variables

Each line gives a variable a value; quotation marks may make a value span several lines, and a value
may refer to variables by `$name` or between braces. Reading ends at the first line that is wrong;
the lines before it count. A variable that is set already keeps its value.
-/

namespace Scaffold.Settings

open Text

abbrev Variables := List (String × String)

inductive LineState where
  /-- After something that a blank may end. -/
  | complete
  /-- After a blank, where a comment may begin. -/
  | blank
  | escape
  | strong
  | strongEscape
  | weak
  | weakEscape
  deriving DecidableEq, Repr

def LineState.start (c : Char) : LineState :=
  match c with
  | '\\' => escape
  | '"' => weak
  | '\'' => strong
  | _ => complete

def LineState.next : LineState → Char → LineState
  | complete, c => if isBlank c && c != '\n' && c != '\r' then blank else start c
  | blank, c => start c
  | escape, _ => complete
  | strong, c => if c = '\\' then strongEscape else if c = '\'' then complete else strong
  | strongEscape, _ => strong
  | weak, c => if c = '\\' then weakEscape else if c = '"' then complete else weak
  | weakEscape, _ => weak

/-- The characters of a line before a comment, with the state after them; the state is absent if
there is a comment. -/
def scanLine : LineState → List Char → List Char × Option LineState
  | state, [] => ([], some state)
  | state, c :: cs =>
    if state = .blank ∧ c = '#' then ([], none)
    else
      let (kept, last) := scanLine (state.next c) cs
      (c :: kept, last)

def dropNewline (line : List Char) : List Char :=
  match beforeSuffix? ['\n'] line with
  | none => line
  | some line => (beforeSuffix? ['\r'] line).getD line

/-- Joins the lines that quotation marks hold together. A line that is no text, and quotation marks
that are not closed, give nothing, and nothing follows them. -/
def joinLines : LineState → List Char → List (Option (List Char)) → List (Option (List Char))
  | state, _, [] => if state = .complete then [] else [none]
  | _, _, none :: _ => [none]
  | state, before, some line :: lines =>
    let all := before ++ line
    if ['#'].isPrefixOf (all.dropWhile isBlank) then joinLines .complete [] lines
    else
      match scanLine state line with
      | (kept, none) => some (before ++ kept) :: joinLines .complete [] lines
      | (_, some .complete) => some (dropNewline all) :: joinLines .complete [] lines
      | (_, some state) => joinLines state all lines

def readName (cs : List Char) : Option (String × List Char) :=
  match cs with
  | c :: _ =>
    if c.isAlpha || c = '_' then
      let isName := fun d : Char => d.isAlphanum || d = '_' || d = '.'
      some (String.ofList (cs.takeWhile isName), cs.dropWhile isName)
    else none
  | [] => none

def afterEquals? (cs : List Char) : Option (List Char) :=
  match cs.dropWhile isBlank with
  | '=' :: rest => some rest
  | _ => none

/-- Reads the name that a line gives a value, with the text of the value. The word `export` may
stand before the name. -/
def readAssignment (line : List Char) : Option (String × List Char) := do
  let (name, rest) ← readName line
  match afterEquals? rest with
  | some rest => return (name, rest.dropWhile isBlank)
  | none =>
    if name = "export" then
      let (name, rest) ← readName (rest.dropWhile isBlank)
      return (name, (← afterEquals? rest).dropWhile isBlank)
    else none

structure ValueState where
  out : List Char := []
  strong : Bool := false
  weak : Bool := false
  escaped : Bool := false
  /-- After a blank, where only a comment may stand. -/
  ended : Bool := false
  comment : Bool := false
  /-- The name of a variable that is referred to, with whether it stands between braces. -/
  reference : Option (List Char × Bool) := none

def escapedChar? (c : Char) : Option Char :=
  if ['\\', '\'', '"', '$', ' '].contains c then some c
  else if c = 'n' then some '\n'
  else none

def ValueState.substitute (s : ValueState) (lookup : String → Option String) (name : List Char) :
    ValueState :=
  { s with
    out := s.out ++ ((lookup (String.ofList name)).getD "").toList
    reference := none }

/-- The value after a character of a reference. -/
def ValueState.refer (s : ValueState) (lookup : String → Option String) (name : List Char)
    (braces : Bool) (c : Char) : ValueState :=
  if isAlphanumeric c then { s with reference := some (name ++ [c], braces) }
  else if braces then
    if c = '\x7d' then s.substitute lookup name
    else { s with reference := some (name ++ [c], true) }
  else if c = '\x7b' ∧ name = [] then { s with reference := some ([], true) }
  else
    let s := s.substitute lookup name
    if c = '$' then { s with reference := some ([], false) } else { s with out := s.out ++ [c] }

def ValueState.next (s : ValueState) (lookup : String → Option String) (c : Char) :
    Option ValueState :=
  if s.comment then some s
  else if s.ended then
    if c = ' ' ∨ c = '\t' then some s
    else if c = '#' then some { s with comment := true }
    else none
  else if s.escaped then
    (escapedChar? c).map fun d => { s with out := s.out ++ [d], escaped := false }
  else if s.strong then
    some (if c = '\'' then { s with strong := false } else { s with out := s.out ++ [c] })
  else
    match s.reference with
    | some (name, braces) => some (s.refer lookup name braces c)
    | none =>
      some <|
        if c = '$' then { s with reference := some ([], false) }
        else if s.weak then
          if c = '"' then { s with weak := false }
          else if c = '\\' then { s with escaped := true }
          else { s with out := s.out ++ [c] }
        else if c = '\'' then { s with strong := true }
        else if c = '"' then { s with weak := true }
        else if c = '\\' then { s with escaped := true }
        else if c = ' ' ∨ c = '\t' then { s with ended := true }
        else { s with out := s.out ++ [c] }

def ValueState.finish (s : ValueState) (lookup : String → Option String) : Option String :=
  match s.reference with
  | some (_, true) => none
  | some (name, false) => close (s.substitute lookup name)
  | none => close s
where
  close (s : ValueState) : Option String :=
    if s.strong || s.weak then none else some (String.ofList s.out)

def readValue (lookup : String → Option String) (cs : List Char) : Option String :=
  match cs with
  | [] | '#' :: _ => some ""
  | cs => (cs.foldlM (fun s c => ValueState.next s lookup c) {}).bind fun s => s.finish lookup

def readAssigned (lookup : String → Option String) (line : List Char) :
    Option (Option (String × String)) :=
  match trim line with
  | [] | '#' :: _ => some none
  | line => do
    let (name, text) ← readAssignment line
    return some (name, ← readValue lookup text)

def addLines (environment : Variables) : List (Option (List Char)) → Variables
  | [] => environment
  | none :: _ => environment
  | some line :: lines =>
    match readAssigned (fun name => environment.lookup name) line with
    | none => environment
    | some none => addLines environment lines
    | some (some (name, value)) =>
      if (environment.lookup name).isSome then addLines environment lines
      else addLines (environment ++ [(name, value)]) lines

/-- The lines of a file; a line that is not UTF-8 is absent. -/
def fileLines (content : ByteArray) : List (Option (List Char)) :=
  match String.fromUTF8? content with
  | some text => (Line.split (dropMark text.toList)).map some
  | none => (octetLines content.toList).map fun line =>
      (String.fromUTF8? ⟨line.toArray⟩).map String.toList
where
  dropMark : List Char → List Char
    | '\uFEFF' :: cs => cs
    | cs => cs
  octetLines : List UInt8 → List (List UInt8)
    | [] => []
    | b :: bs =>
      if b = 10 then [b] :: octetLines bs
      else
        match octetLines bs with
        | [] => [[b]]
        | line :: lines => (b :: line) :: lines

def addFile (environment : Variables) (content : ByteArray) : Variables :=
  addLines environment (joinLines .complete [] (fileLines content))

end Scaffold.Settings

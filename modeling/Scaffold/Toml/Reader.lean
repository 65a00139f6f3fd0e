import Scaffold.Toml.Scalar
import Scaffold.Toml.Table
/-!
# Reading TOML documents

Reading a TOML document. A document is a sequence of headers and of keys with values, one a line;
a value may span several lines. A reader takes the characters that are left and gives what it read
with the characters after it, or nothing if the document is malformed. The readers of nested values
count down from the length of the document, which they never exhaust.
-/

namespace Scaffold.Toml

def skipBlanks (cs : List Char) : List Char :=
  cs.dropWhile fun c => c = ' ' || c = '\t'

/-- The text after a comment, which ends before a newline and holds no control characters. -/
def skipComment : List Char → Option (List Char)
  | [] => some []
  | '\n' :: cs => some ('\n' :: cs)
  | '\r' :: '\n' :: cs => some ('\n' :: cs)
  | c :: cs => if isControl c then none else skipComment cs

def skipLines : Nat → List Char → Option (List Char)
  | 0, _ => none
  | n + 1, cs =>
    match skipBlanks cs with
    | '#' :: rest => (skipComment rest).bind (skipLines n)
    | '\n' :: rest => skipLines n rest
    | '\r' :: '\n' :: rest => skipLines n rest
    | rest => some rest

/-- The text after the end of a line, where only a comment may stand. -/
def endLine (cs : List Char) : Option (List Char) :=
  match skipBlanks cs with
  | [] => some []
  | '\n' :: rest => some rest
  | '\r' :: '\n' :: rest => some rest
  | '#' :: rest =>
    match skipComment rest with
    | some ('\n' :: rest) => some rest
    | ended => ended
  | _ => none

def isBare (c : Char) : Bool :=
  c.isAlphanum || c = '_' || c = '-'

def readName (cs : List Char) : Option (String × List Char) :=
  match cs with
  | '"' :: rest => (readString .basic .plain rest).map fun (name, rest) => (String.ofList name, rest)
  | '\'' :: rest =>
    (readString .literal .plain rest).map fun (name, rest) => (String.ofList name, rest)
  | cs =>
    let name := cs.takeWhile isBare
    if name.isEmpty then none else some (String.ofList name, cs.dropWhile isBare)

def readKey : Nat → List Char → Option (List String × List Char)
  | 0, _ => none
  | n + 1, cs =>
    match readName (skipBlanks cs) with
    | none => none
    | some (name, rest) =>
      match skipBlanks rest with
      | '.' :: rest => (readKey n rest).map fun (names, rest) => (name :: names, rest)
      | rest => some ([name], rest)

def skipEquals : List Char → Option (List Char)
  | '=' :: rest => some (skipBlanks rest)
  | _ => none

mutual

def readValue : Nat → List Char → Option (Value × List Char)
  | 0, _ => none
  | n + 1, cs =>
    match cs with
    | '"' :: _ | '\'' :: _ =>
      (readQuoted cs).map fun (text, rest) => (.text (String.ofList text), rest)
    | '[' :: rest => readItems n [] rest
    | '\x7b' :: rest =>
      match skipBlanks rest with
      | '\x7d' :: rest => some (.table [], rest)
      | rest => readFields n [] rest
    | cs =>
      let (word, rest) := cutWord cs
      (word? word).map fun v => (v, rest)

/-- Reads the items of an array after its opening bracket or a comma. -/
def readItems : Nat → List Value → List Char → Option (Value × List Char)
  | 0, _, _ => none
  | n + 1, items, cs =>
    match skipLines n cs with
    | none => none
    | some (']' :: rest) => some (.array items, rest)
    | some cs =>
      match readValue n cs with
      | none => none
      | some (v, rest) =>
        match skipLines n rest with
        | some (',' :: rest) => readItems n (items ++ [v]) rest
        | some (']' :: rest) => some (.array (items ++ [v]), rest)
        | _ => none

def readFields : Nat → List (String × Node) → List Char → Option (Value × List Char)
  | 0, _, _ => none
  | n + 1, entries, cs =>
    match readKey n cs with
    | none => none
    | some (key, rest) =>
      match (skipEquals rest).bind (readValue n) with
      | none => none
      | some (v, rest) =>
        match Node.define v key entries, skipBlanks rest with
        | some entries, ',' :: rest => readFields n entries rest
        | some entries, '\x7d' :: rest => some (.table (Node.finish entries), rest)
        | _, _ => none

end

inductive Line where
  | table (path : List String)
  | item (path : List String)
  | entry (key : List String) (v : Value)

def readHeader (n : Nat) (brackets : List Char) (cs : List Char) :
    Option (List String × List Char) :=
  match readKey n cs with
  | none => none
  | some (path, rest) => (Text.afterPrefix? brackets rest).map fun rest => (path, rest)

def readLine (n : Nat) (cs : List Char) : Option (Line × List Char) :=
  let read := match cs with
    | '[' :: '[' :: rest =>
      (readHeader n [']', ']'] rest).map fun (path, rest) => (Line.item path, rest)
    | '[' :: rest => (readHeader n [']'] rest).map fun (path, rest) => (Line.table path, rest)
    | cs =>
      match readKey n cs with
      | none => none
      | some (key, rest) =>
        ((skipEquals rest).bind (readValue n)).map fun (v, rest) => (Line.entry key v, rest)
  match read with
  | none => none
  | some (line, rest) => (endLine rest).map fun rest => (line, rest)

def readLines : Nat → List Char → Option (List Line)
  | 0, _ => none
  | n + 1, cs =>
    match skipLines (cs.length + 1) cs with
    | none => none
    | some [] => some []
    | some cs =>
      match readLine (2 * cs.length + 2) cs with
      | none => none
      | some (line, rest) => (readLines n rest).map (line :: ·)

/-- Adds lines to a document, given the path of the table that keys belong to. -/
def addLines (here : List String) (root : List (String × Node)) :
    List Line → Option (List (String × Node))
  | [] => some root
  | .entry key v :: lines =>
    match Node.modify (Node.define v key) here root with
    | none => none
    | some root => addLines here root lines
  | .table path :: lines =>
    match Node.modify (Node.openTable (path.getLast?.getD "")) path.dropLast root with
    | none => none
    | some root => addLines path root lines
  | .item path :: lines =>
    match Node.modify (Node.openItem (path.getLast?.getD "")) path.dropLast root with
    | none => none
    | some root => addLines path root lines

def parse (source : String) : Option Value :=
  let cs := source.toList
  match readLines (cs.length + 1) cs with
  | none => none
  | some lines => (addLines [] [] lines).map fun root => .table (Node.finish root)

end Scaffold.Toml

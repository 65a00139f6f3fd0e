import Scaffold.Text.Quoted
/-!
# JSON documents

JSON documents as they are printed: two spaces for each level, one item a line, fields in the order
in which they are given.
-/

namespace Scaffold

inductive Json where
  | null
  | bool (b : Bool)
  | text (s : String)
  | array (items : List Json)
  | object (fields : List (String × Json))

namespace Json

def quoteChar (c : Char) : List Char :=
  match c with
  | '"' => ['\\', '"']
  | '\\' => ['\\', '\\']
  | '\x08' => ['\\', 'b']
  | '\x0c' => ['\\', 'f']
  | '\n' => ['\\', 'n']
  | '\r' => ['\\', 'r']
  | '\t' => ['\\', 't']
  | c =>
    if c.toNat < 0x20 then
      let digits := Text.hexDigits c.toNat
      ['\\', 'u'] ++ List.replicate (4 - digits.length) '0' ++ digits
    else [c]

def quote (s : String) : String :=
  String.ofList ('"' :: s.toList.flatMap quoteChar ++ ['"'])

def ofOption : Option String → Json
  | some s => text s
  | none => null

def newline (level : Nat) : String :=
  String.ofList ('\n' :: List.replicate (2 * level) ' ')

/-- Parts between brackets, each on a line of its own, at a level. -/
def bracketed (left right : String) (level : Nat) (parts : List String) : String :=
  if parts.isEmpty then left ++ right
  else
    left ++ String.intercalate "," (parts.map (newline (level + 1) ++ ·)) ++ newline level ++ right

mutual

def print (level : Nat) : Json → String
  | null => "null"
  | bool b => if b then "true" else "false"
  | text s => quote s
  | array items => bracketed "[" "]" level (printItems (level + 1) items)
  | object fields => bracketed "\x7b" "\x7d" level (printFields (level + 1) fields)

def printItems (level : Nat) : List Json → List String
  | [] => []
  | item :: items => print level item :: printItems level items

def printFields (level : Nat) : List (String × Json) → List String
  | [] => []
  | (name, v) :: fields => (quote name ++ ": " ++ print level v) :: printFields level fields

end

def toText (document : Json) : String :=
  print 0 document

end Json

end Scaffold

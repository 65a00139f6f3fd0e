import Scaffold.Text.Case
/-!
# TOML values

Values of TOML documents, and how a value is read where a text or a truth value is expected.
-/

namespace Scaffold.Toml

/-- A value of a document. Numbers with a fraction and moments keep their canonical text. -/
inductive Value where
  | text (s : String)
  | integer (n : Int)
  | float (text : String)
  | boolean (b : Bool)
  | moment (text : String)
  | array (items : List Value)
  | table (entries : List (String × Value))

namespace Value

def entries : Value → List (String × Value)
  | table entries => entries
  | _ => []

def get? (v : Value) (name : String) : Option Value :=
  v.entries.lookup name

def text? : Value → Option String
  | text s => some s
  | integer n => some (toString n)
  | float s => some s
  | boolean b => some (if b then "true" else "false")
  | moment s => some s
  | array _ | table _ => none

def truthOfWord? (word : String) : Option Bool :=
  match String.ofList (Text.lower word.toList) with
  | "1" | "true" | "on" | "yes" => some true
  | "0" | "false" | "off" | "no" => some false
  | _ => none

/-- The truth value of a value: its own, that of a word, or whether a number is not zero. -/
def truth? : Value → Option Bool
  | boolean b => some b
  | integer n => some (n != 0)
  | float s => some (s != "0" && s != "-0")
  | text s | moment s => truthOfWord? s
  | array _ | table _ => none

end Value

def setEntry {α : Type} (name : String) (v : α) : List (String × α) → List (String × α)
  | [] => [(name, v)]
  | e :: entries => if e.1 = name then (name, v) :: entries else e :: setEntry name v entries

end Scaffold.Toml

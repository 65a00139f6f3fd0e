import Scaffold.Toml.Value
/-!
# Tables under construction

A table may be defined once: by a header, by dotted keys, or only as a step on the way of another
header, in which case its own header may still follow. Nothing can be added to a value that is
complete.
-/

namespace Scaffold.Toml

/-- How a table came to be. -/
inductive Origin where
  /-- As a step on the way to another table. -/
  | implied
  | header
  | dotted
  deriving DecidableEq, Repr

inductive Node where
  | value (v : Value)
  | table (origin : Origin) (entries : List (String × Node))
  /-- A list of tables, the last one first. -/
  | tables (items : List (List (String × Node)))

namespace Node

mutual

def toValue : Node → Value
  | value v => v
  | table _ entries => .table (finish entries)
  | tables items => .array (finishAll items).reverse

def finish : List (String × Node) → List (String × Value)
  | [] => []
  | (name, node) :: entries => (name, toValue node) :: finish entries

def finishAll : List (List (String × Node)) → List Value
  | [] => []
  | entries :: items => .table (finish entries) :: finishAll items

end

/-- Changes the table at the end of a path of headers. -/
def modify (change : List (String × Node) → Option (List (String × Node))) :
    List String → List (String × Node) → Option (List (String × Node))
  | [], entries => change entries
  | name :: names, entries =>
    match entries.lookup name with
    | none => (modify change names []).map fun inner => setEntry name (.table .implied inner) entries
    | some (.table origin inner) =>
      (modify change names inner).map fun inner => setEntry name (.table origin inner) entries
    | some (.tables (item :: items)) =>
      (modify change names item).map fun item => setEntry name (.tables (item :: items)) entries
    | some _ => none

def define (v : Value) : List String → List (String × Node) → Option (List (String × Node))
  | [], _ => none
  | [name], entries =>
    match entries.lookup name with
    | none => some (setEntry name (.value v) entries)
    | some _ => none
  | name :: names, entries =>
    match entries.lookup name with
    | none => (define v names []).map fun inner => setEntry name (.table .dotted inner) entries
    | some (.table .header _) => none
    | some (.table origin inner) =>
      (define v names inner).map fun inner => setEntry name (.table origin inner) entries
    | some _ => none

def openTable (name : String) (entries : List (String × Node)) : Option (List (String × Node)) :=
  match entries.lookup name with
  | none => some (setEntry name (.table .header []) entries)
  | some (.table .implied inner) => some (setEntry name (.table .header inner) entries)
  | some _ => none

def openItem (name : String) (entries : List (String × Node)) : Option (List (String × Node)) :=
  match entries.lookup name with
  | none => some (setEntry name (.tables [[]]) entries)
  | some (.tables items) => some (setEntry name (.tables ([] :: items)) entries)
  | some _ => none

end Node

end Scaffold.Toml

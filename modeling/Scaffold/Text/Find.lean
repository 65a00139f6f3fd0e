/-!
# Searching in texts

Searching in texts: occurrence of one text in another, the text before and after a separator, and
the fields between separators.
-/

namespace Scaffold.Text

def occursIn (needle : List Char) : List Char → Bool
  | [] => needle.isEmpty
  | c :: cs => needle.isPrefixOf (c :: cs) || occursIn needle cs

def afterPrefix? : List Char → List Char → Option (List Char)
  | [], cs => some cs
  | _ :: _, [] => none
  | p :: ps, c :: cs => if p = c then afterPrefix? ps cs else none

def beforeSuffix? (ending cs : List Char) : Option (List Char) :=
  (afterPrefix? ending.reverse cs.reverse).map List.reverse

/-- The fields of a text between the characters that satisfy `p`; there is always one more field
than there are separators. -/
def fieldsBy {α : Type} (p : α → Bool) : List α → List (List α)
  | [] => [[]]
  | c :: cs =>
    match p c, fieldsBy p cs with
    | true, fields => [] :: fields
    | false, field :: fields => (c :: field) :: fields
    | false, [] => [[c]]

def fields {α : Type} [DecidableEq α] (separator : α) (cs : List α) : List (List α) :=
  fieldsBy (· = separator) cs

def cutAt? (needle : List Char) : List Char → Option (List Char × List Char)
  | [] => if needle.isEmpty then some ([], []) else none
  | c :: cs =>
    match afterPrefix? needle (c :: cs) with
    | some rest => some ([], rest)
    | none => (cutAt? needle cs).map fun (before, rest) => (c :: before, rest)

def joinWith {α : Type} (separator : List α) : List (List α) → List α
  | [] => []
  | [cs] => cs
  | cs :: rest => cs ++ separator ++ joinWith separator rest

end Scaffold.Text

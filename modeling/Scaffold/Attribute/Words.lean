import Scaffold.Text.Case
import Scaffold.Text.Find
/-!
# Words of an identifier

A text is cut into runs of letters and digits, and a run again where its case shows that a new word
begins: between a lowercase and an uppercase letter, and before the last of several uppercase
letters that a lowercase one follows (`XMLHttp` is `XML`, `Http`). The snake and Pascal forms write
these words again in one style.
-/

namespace Scaffold.Words

open Text

/-- The case of the last letter of the current word that has one. -/
inductive Casing where
  /-- No letter so far has a case. -/
  | unknown
  | lower
  | upper
  deriving DecidableEq, Repr

def Casing.after (casing : Casing) (c : Char) : Casing :=
  if isLowercase c then .lower else if isUppercase c then .upper else casing

/-- The words of a run of letters and digits, given the beginning of the current word. -/
def cutRun (casing : Casing) (word : List Char) : List Char → List (List Char)
  | [] => []
  | [c] => [word ++ [c]]
  | c :: d :: rest =>
    if casing.after c = .lower ∧ isUppercase d then
      (word ++ [c]) :: cutRun .unknown [] (d :: rest)
    else if casing = .upper ∧ isUppercase c ∧ isLowercase d then
      word :: cutRun .unknown [c] (d :: rest)
    else cutRun (casing.after c) (word ++ [c]) (d :: rest)

def words (text : List Char) : List (List Char) :=
  (fieldsBy (fun c => !isAlphanumeric c) text).flatMap (cutRun .unknown [])

/-- A word in lowercase; a capital sigma at its end takes its final form. -/
def lowerWord : List Char → List Char
  | [] => []
  | [c] => if c.toNat = 0x3A3 then [Char.ofNat 0x3C2] else lowerChar c
  | c :: rest => lowerChar c ++ lowerWord rest

def capitalWord : List Char → List Char
  | [] => []
  | c :: rest => upperChar c ++ lowerWord rest

def snake (text : List Char) : List Char :=
  joinWith ['_'] ((words text).map lowerWord)

def pascal (text : List Char) : List Char :=
  ((words text).map capitalWord).flatten

end Scaffold.Words

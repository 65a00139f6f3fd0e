import Scaffold.Text.Find
/-!
# Physical lines

A text is split into lines with their terminators attached, so that everything outside an insertion
point is kept character for character.
-/

namespace Scaffold.Text.Line

/-- The physical lines of a text, each with its newline; the last one may lack it. -/
def split : List Char → List (List Char)
  | [] => []
  | c :: cs =>
    if c = '\n' then [c] :: split cs
    else
      match split cs with
      | [] => [[c]]
      | line :: lines => (c :: line) :: lines

def find? (needle cs : List Char) : Option Nat :=
  (split cs).findIdx? (occursIn needle)

/-- The line without its terminator, that is, without newlines and carriage returns at its end. -/
def body (line : List Char) : List Char :=
  (line.reverse.dropWhile fun c => c = '\n' || c = '\r').reverse

def get? (cs : List Char) (index : Nat) : Option (List Char) :=
  (split cs)[index]?.map body

def indentation (line : List Char) : List Char :=
  line.takeWhile fun c => c = ' ' || c = '\t'

def ending (line : List Char) : List Char :=
  if ['\r', '\n'].isSuffixOf line then ['\r', '\n']
  else if ['\n'].isSuffixOf line then ['\n']
  else []

/-- The text that rows occupy after a line with the given terminator. After a line without one,
each row is preceded by a newline instead of followed by the terminator. -/
def block (terminator : List Char) (rows : List (List Char)) : List Char :=
  if terminator.isEmpty then rows.flatMap ('\n' :: ·) else rows.flatMap (· ++ terminator)

/-- The text with `rows` inserted after the line at `index`; unchanged if there is no such line. -/
def insertAfter (cs : List Char) (index : Nat) (rows : List (List Char)) : List Char :=
  let lines := split cs
  match lines[index]? with
  | none => cs
  | some line =>
    (lines.take index).flatten ++ line ++ block (ending line) rows ++ (lines.drop (index + 1)).flatten

theorem flatten_split (cs : List Char) : (split cs).flatten = cs := by
  induction cs with
  | nil => rfl
  | cons c cs ih =>
    rw [split]
    split
    · simp [ih]
    · split
      · next h => rw [h] at ih; simp at ih; simp [← ih]
      · next h => rw [h] at ih; simp at ih; simp [ih]

end Scaffold.Text.Line

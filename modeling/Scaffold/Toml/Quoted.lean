import Scaffold.Text.Find
import Scaffold.Text.Quoted
/-!
# TOML strings

There are four styles: with or without escapes, on one line or on several. A string is written in
the first style that needs no escapes, and with escapes if there is none. Reading is a machine over
the characters after the opening quotation marks.
-/

namespace Scaffold.Toml

structure Style where
  mark : Char
  escapes : Bool
  /-- Newlines are allowed, and there are three quotation marks at each end. -/
  multiline : Bool
  deriving DecidableEq, Repr

namespace Style

def basic : Style := ⟨'"', true, false⟩

def literal : Style := ⟨'\'', false, false⟩

def multilineBasic : Style := ⟨'"', true, true⟩

def multilineLiteral : Style := ⟨'\'', false, true⟩

def marks (style : Style) : List Char :=
  if style.multiline then [style.mark, style.mark, style.mark] else [style.mark]

end Style

/-- A control character other than a tab, which no string holds as it is. -/
def isControl (c : Char) : Bool :=
  (c.toNat < 0x20 && c != '\t') || c = '\x7f'

inductive StringState where
  | plain
  | marks (count : Nat)
  | escape
  /-- In a numeric escape, with the digits due and the number so far. -/
  | code (due value : Nat)
  /-- After a carriage return, which a newline must follow. -/
  | carriage
  /-- In the blanks that a backslash at the end of a line removes. -/
  | gap (newline : Bool)
  deriving DecidableEq, Repr

def escaped? : Char → Option Char
  | 'b' => some '\x08'
  | 't' => some '\t'
  | 'n' => some '\n'
  | 'f' => some '\x0c'
  | 'r' => some '\r'
  | '"' => some '"'
  | '\\' => some '\\'
  | _ => none

def hexValue? (c : Char) : Option Nat :=
  if '0' ≤ c ∧ c ≤ '9' then some (c.toNat - 48)
  else if 'a' ≤ c ∧ c ≤ 'f' then some (c.toNat - 87)
  else if 'A' ≤ c ∧ c ≤ 'F' then some (c.toNat - 55)
  else none

def charOf? (n : Nat) : Option Char :=
  if n.isValidChar then some (Char.ofNat n) else none

/-- Reads one character between others: the characters it stands for, and the next state. -/
def stepPlain (style : Style) (c : Char) : Option (List Char × StringState) :=
  if c = '\\' ∧ style.escapes then some ([], .escape)
  else if c = '\n' then if style.multiline then some ([c], .plain) else none
  else if c = '\r' then if style.multiline then some ([], .carriage) else none
  else if isControl c then none
  else some ([c], .plain)

def stepEscape (style : Style) (c : Char) : Option (List Char × StringState) :=
  if c = 'u' then some ([], .code 4 0)
  else if c = 'U' then some ([], .code 8 0)
  else if style.multiline ∧ (c = ' ' ∨ c = '\t' ∨ c = '\r') then some ([], .gap false)
  else if style.multiline ∧ c = '\n' then some ([], .gap true)
  else (escaped? c).map fun d => ([d], .plain)

def stepString (style : Style) (state : StringState) (c : Char) :
    Option (List Char × StringState) :=
  match state with
  | .plain =>
    if c = style.mark then some ([], .marks 1) else stepPlain style c
  | .marks count =>
    if c = style.mark then some ([], .marks (count + 1))
    else (stepPlain style c).map fun (out, next) => (List.replicate count style.mark ++ out, next)
  | .escape => stepEscape style c
  | .code due value =>
    match hexValue? c with
    | none => none
    | some digit =>
      if due ≤ 1 then (charOf? (value * 16 + digit)).map fun d => ([d], .plain)
      else some ([], .code (due - 1) (value * 16 + digit))
  | .carriage => if c = '\n' then some ([c], .plain) else none
  | .gap newline =>
    if c = '\n' then some ([], .gap true)
    else if c = ' ' ∨ c = '\t' ∨ c = '\r' then some ([], .gap newline)
    else if ¬newline then none
    else if c = style.mark then some ([], .marks 1)
    else stepPlain style c

/-- The quotation marks before a character that end the string: their number beyond three stands
in the text. -/
def closing? (style : Style) (state : StringState) (next : Option Char) : Option (List Char) :=
  match state with
  | .marks count =>
    if ¬style.multiline then some []
    else if count ≥ 3 ∧ (next ≠ some style.mark ∨ count = 5) then
      some (List.replicate (count - 3) style.mark)
    else none
  | _ => none

def readString (style : Style) : StringState → List Char → Option (List Char × List Char)
  | state, [] => (closing? style state none).map fun out => (out, [])
  | state, c :: cs =>
    match closing? style state (some c) with
    | some out => some (out, c :: cs)
    | none =>
      match stepString style state c with
      | none => none
      | some (out, next) => (readString style next cs).map fun (text, rest) => (out ++ text, rest)

def dropNewline : List Char → List Char
  | '\n' :: cs => cs
  | '\r' :: '\n' :: cs => cs
  | cs => cs

def readQuoted : List Char → Option (List Char × List Char)
  | '"' :: '"' :: '"' :: cs => readString .multilineBasic .plain (dropNewline cs)
  | '"' :: cs => readString .basic .plain cs
  | '\'' :: '\'' :: '\'' :: cs => readString .multilineLiteral .plain (dropNewline cs)
  | '\'' :: cs => readString .literal .plain cs
  | _ => none

def longestRun (x : Char) (cs : List Char) : Nat :=
  go 0 cs
where
  go (current : Nat) : List Char → Nat
    | [] => current
    | c :: cs => if c = x then go (current + 1) cs else max current (go 0 cs)

def hasControl (cs : List Char) : Bool :=
  cs.any fun c => isControl c && c != '\n'

def suits (style : Style) (cs : List Char) : Bool :=
  !hasControl cs && !(style.escapes && cs.contains '\\') &&
    longestRun style.mark cs ≤ (if style.multiline then 2 else 0) &&
    (style.multiline || !cs.contains '\n')

def styleFor (cs : List Char) : Style :=
  let styles := [Style.basic, .literal, .multilineBasic, .multilineLiteral]
  match styles.find? fun style => suits style cs with
  | some style => style
  | none => if cs.contains '\n' then .multilineBasic else .basic

/-- A character in a style with escapes, after a number of quotation marks in a row. -/
def escapeChar (style : Style) (run : Nat) (c : Char) : List Char :=
  match c with
  | '"' => if run < (if style.multiline then 2 else 0) then ['"'] else ['\\', '"']
  | '\\' => ['\\', '\\']
  | '\x08' => ['\\', 'b']
  | '\t' => ['\\', 't']
  | '\n' => if style.multiline then ['\n'] else ['\\', 'n']
  | '\x0c' => ['\\', 'f']
  | '\r' => ['\\', 'r']
  | c =>
    if isControl c then
      let digits := (Text.hexDigits c.toNat).map Char.toUpper
      ['\\', 'u'] ++ List.replicate (4 - digits.length) '0' ++ digits
    else [c]

def nextRun (style : Style) (run : Nat) (c : Char) : Nat :=
  if c = '"' ∧ run < (if style.multiline then 2 else 0) then run + 1 else 0

def escapeText (style : Style) : Nat → List Char → List Char
  | _, [] => []
  | run, c :: cs => escapeChar style run c ++ escapeText style (nextRun style run c) cs

/-- A text in a style, with quotation marks; a text of several lines begins on a line of its
own. -/
def writeIn (style : Style) (cs : List Char) : List Char :=
  style.marks ++ (if style.multiline && cs.contains '\n' then ['\n'] else []) ++
    (if style.escapes then escapeText style 0 cs else cs) ++ style.marks

def writeQuoted (cs : List Char) : List Char :=
  writeIn (styleFor cs) cs

end Scaffold.Toml

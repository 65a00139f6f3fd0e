import Scaffold.Template.Value
import Scaffold.Text.Blank
import Scaffold.Text.Find
/-!
# Tokens of templates

Tokens of template texts. A template is plain text with expressions between double braces,
statements between a brace and a percent sign, and comments between a brace and a number sign.
A minus sign at the inner side of a delimiter removes the blanks outside it; a plus sign keeps
them.

The reader never fails: where the text has no token, the list ends with a fault.
-/

namespace Scaffold.Template

open Text

inductive Mark where
  | plus | minus | star | slash | slashSlash | percent | starStar | tilde | pipe | dot | comma
  | colon | assign | equal | notEqual | less | lessEqual | greater | greaterEqual
  | parenOpen | parenClose | bracketOpen | bracketClose | braceOpen | braceClose
  deriving DecidableEq, Repr

inductive Token where
  | text (s : List Char)
  | exprStart | exprEnd | stmtStart | stmtEnd
  | name (s : String)
  | str (s : String)
  | int (n : Nat)
  | mark (m : Mark)
  | fault (cause : Cause)
  deriving DecidableEq, Repr

structure Lexeme where
  token : Token
  line : Nat
  deriving DecidableEq, Repr

/-- What a delimiter does with the blanks outside it. -/
inductive Control where
  | keep | remove
  deriving DecidableEq, Repr

namespace Lexer

def lineAfter (line : Nat) (cs : List Char) : Nat :=
  line + cs.count '\n'

def isSpace (c : Char) : Bool :=
  c = ' ' || c = '\t' || c = '\n' || c = '\r' || c = '\x0c'

/-- The text before the first delimiter, and the rest from the delimiter on. -/
def cutAtDelimiter : List Char → List Char × List Char
  | [] => ([], [])
  | '\x7b' :: c :: rest =>
    if c = '\x7b' ∨ c = '%' ∨ c = '#' then ([], '\x7b' :: c :: rest)
    else
      let (before, after) := cutAtDelimiter (c :: rest)
      ('\x7b' :: before, after)
  | c :: rest =>
    let (before, after) := cutAtDelimiter rest
    (c :: before, after)

def openingControl : List Char → Control × List Char
  | '-' :: rest => (.remove, rest)
  | '+' :: rest => (.keep, rest)
  | rest => (.keep, rest)

def closing? (delimiter : List Char) (cs : List Char) : Option (Control × List Char) :=
  match afterPrefix? delimiter cs with
  | some rest => some (.keep, rest)
  | none =>
    match cs with
    | '-' :: rest => (afterPrefix? delimiter rest).map (.remove, ·)
    | '+' :: rest => (afterPrefix? delimiter rest).map (.keep, ·)
    | _ => none

/-- The rest after a statement that is one keyword, given the text after its opening delimiter. -/
def keywordTag? (keyword cs : List Char) : Option (Control × List Char) :=
  (afterPrefix? keyword (cs.dropWhile isSpace)).bind fun rest =>
    closing? ['%', '\x7d'] (rest.dropWhile isSpace)

/-- A text up to the statement that ends a verbatim part: the part, the controls of that statement
and the rest. -/
def cutAtVerbatimEnd? : List Char → Option (List Char × Control × Control × List Char)
  | [] => none
  | c :: cs =>
    let here :=
      match c :: cs with
      | '\x7b' :: '%' :: rest =>
        let (before, inner) := openingControl rest
        (keywordTag? ['e', 'n', 'd', 'r', 'a', 'w'] inner).map fun (after, rest) =>
          ([], before, after, rest)
      | _ => none
    match here with
    | some found => some found
    | none => (cutAtVerbatimEnd? cs).map fun (part, found) => (c :: part, found)

def mark? : List Char → Option (Mark × List Char)
  | '/' :: '/' :: rest => some (.slashSlash, rest)
  | '*' :: '*' :: rest => some (.starStar, rest)
  | '=' :: '=' :: rest => some (.equal, rest)
  | '!' :: '=' :: rest => some (.notEqual, rest)
  | '>' :: '=' :: rest => some (.greaterEqual, rest)
  | '<' :: '=' :: rest => some (.lessEqual, rest)
  | '+' :: rest => some (.plus, rest)
  | '-' :: rest => some (.minus, rest)
  | '*' :: rest => some (.star, rest)
  | '/' :: rest => some (.slash, rest)
  | '%' :: rest => some (.percent, rest)
  | '.' :: rest => some (.dot, rest)
  | ',' :: rest => some (.comma, rest)
  | ':' :: rest => some (.colon, rest)
  | '~' :: rest => some (.tilde, rest)
  | '|' :: rest => some (.pipe, rest)
  | '=' :: rest => some (.assign, rest)
  | '>' :: rest => some (.greater, rest)
  | '<' :: rest => some (.less, rest)
  | '(' :: rest => some (.parenOpen, rest)
  | ')' :: rest => some (.parenClose, rest)
  | '[' :: rest => some (.bracketOpen, rest)
  | ']' :: rest => some (.bracketClose, rest)
  | '\x7b' :: rest => some (.braceOpen, rest)
  | '\x7d' :: rest => some (.braceClose, rest)
  | _ => none

def cutString? (quote : Char) : List Char → Option (List Char × List Char)
  | [] => none
  | '\\' :: c :: rest => (cutString? quote rest).map fun (s, rest) => ('\\' :: c :: s, rest)
  | c :: rest =>
    if c = quote then some ([], rest)
    else if c = '\\' then none
    else (cutString? quote rest).map fun (s, rest) => (c :: s, rest)

def hexValue? (c : Char) : Option Nat :=
  if c.isDigit then some (c.toNat - '0'.toNat)
  else if 'a' ≤ c ∧ c ≤ 'f' then some (c.toNat - 'a'.toNat + 10)
  else if 'A' ≤ c ∧ c ≤ 'F' then some (c.toNat - 'A'.toNat + 10)
  else none

def hex4? (a b c d : Char) : Option Nat := do
  return (((← hexValue? a) * 16 + (← hexValue? b)) * 16 + (← hexValue? c)) * 16 + (← hexValue? d)

def escape? : Char → Option Char
  | '"' => some '"'
  | '\'' => some '\''
  | '\\' => some '\\'
  | '/' => some '/'
  | 'b' => some '\x08'
  | 'f' => some '\x0c'
  | 'n' => some '\n'
  | 'r' => some '\r'
  | 't' => some '\t'
  | _ => none

/-- The content of a string with its escapes resolved. A code unit beyond the basic plane is
written as two escapes, the first of which is `pending` until the second is read. -/
def unescape? (pending : Option Nat) : List Char → Option (List Char)
  | [] => if pending.isNone then some [] else none
  | '\\' :: 'u' :: a :: b :: c :: d :: rest =>
    match hex4? a b c d, pending with
    | none, _ => none
    | some unit, none =>
      if 0xD800 ≤ unit ∧ unit ≤ 0xDFFF then unescape? (some unit) rest
      else (unescape? none rest).map (Char.ofNat unit :: ·)
    | some unit, some high =>
      if 0xD800 ≤ high ∧ high ≤ 0xDBFF ∧ 0xDC00 ≤ unit ∧ unit ≤ 0xDFFF then
        (unescape? none rest).map
          (Char.ofNat (0x10000 + (high - 0xD800) * 0x400 + (unit - 0xDC00)) :: ·)
      else none
  | '\\' :: c :: rest =>
    if pending.isSome then none
    else
      match escape? c, unescape? none rest with
      | some c, some s => some (c :: s)
      | _, _ => none
  | c :: rest => if pending.isSome then none else (unescape? none rest).map (c :: ·)

def isNameStart (c : Char) : Bool :=
  c.isAlpha || c = '_'

def isNamePart (c : Char) : Bool :=
  c.isAlphanum || c = '_'

/-- The number of digits in a base, underscores being skipped. -/
def digitsValue (base : Nat) (cs : List Char) : Nat :=
  cs.foldl (fun n c => match hexValue? c with
    | some d => n * base + d
    | none => n) 0

/-- The number a text begins with: decimal, or after `0x`, `0o` or `0b` in another base. Numbers
with a fraction or of more than 128 bits are not read. -/
def number (cs : List Char) : Token × List Char :=
  let (base, digits) :=
    match cs with
    | '0' :: c :: rest =>
      if c = 'x' ∨ c = 'X' then (16, rest)
      else if c = 'o' ∨ c = 'O' then (8, rest)
      else if c = 'b' ∨ c = 'B' then (2, rest)
      else (10, cs)
    | _ => (10, cs)
  let isDigit := fun c => c = '_' || (if base = 16 then (hexValue? c).isSome else c.isDigit)
  let run := digits.takeWhile isDigit
  let rest := digits.dropWhile isDigit
  let fraction := base = 10 ∧ (rest.head? = some '.' ∨ rest.head? = some 'e' ∨ rest.head? = some 'E')
  let bad := fraction ∨ run.all (· = '_') ∨ run.getLast? = some '_' ∨
    run.any fun c => match hexValue? c with
      | some d => decide (base ≤ d)
      | none => false
  let n := digitsValue base run
  if bad ∨ Nat.pow 2 128 ≤ n then (.fault .badForm, []) else (.int n, rest)

def token (cs : List Char) : Token × List Char :=
  match mark? cs with
  | some (m, rest) => (.mark m, rest)
  | none =>
    match cs with
    | [] => (.fault .badForm, [])
    | c :: rest =>
      if c = '"' ∨ c = '\'' then
        match cutString? c rest with
        | none => (.fault .badForm, [])
        | some (raw, rest) =>
          match unescape? none raw with
          | none => (.fault .badEscape, [])
          | some s => (.str (String.ofList s), rest)
      else if c.isDigit then number cs
      else if isNameStart c then
        (.name (String.ofList (cs.takeWhile isNamePart)), cs.dropWhile isNamePart)
      else (.fault .badForm, [])

inductive Mode where
  /-- Plain text, whose leading blanks are removed if the last delimiter says so. -/
  | text (control : Control)
  | expr
  | stmt
  deriving DecidableEq, Repr

def Mode.delimiter : Mode → List Char
  | stmt => ['%', '\x7d']
  | _ => ['\x7d', '\x7d']

def Mode.endToken : Mode → Token
  | stmt => .stmtEnd
  | _ => .exprEnd

/-- The characters between `before` and a later point of the same text, `after`. -/
def consumed (before after : List Char) : List Char :=
  before.take (before.length - after.length)

def delimiter (cs : List Char) : Option Token × Mode × List Char :=
  match cs with
  | '\x7b' :: '#' :: rest =>
    match cutAt? ['#', '\x7d'] (openingControl rest).2 with
    | some (comment, rest) =>
      (none, .text (if comment.getLast? = some '-' then .remove else .keep), rest)
    | none => (some (.fault .badForm), .text .keep, [])
  | '\x7b' :: '%' :: rest =>
    let inner := (openingControl rest).2
    match keywordTag? ['r', 'a', 'w'] inner with
    | none => (some .stmtStart, .stmt, inner)
    | some (control, verbatim) =>
      match cutAtVerbatimEnd? verbatim with
      | none => (some (.fault .badForm), .text .keep, [])
      | some (part, before, after, rest) =>
        let part := if control = .remove then part.dropWhile isBlank else part
        let part := if before = .remove then dropEndWhile isBlank part else part
        (some (.text part), .text after, rest)
  | '\x7b' :: '\x7b' :: rest => (some .exprStart, .expr, (openingControl rest).2)
  | cs => (none, .text .keep, cs)

/-- The line on which the token of a delimiter starts: verbatim text starts after its opening
statement. -/
def delimiterLine (line : Nat) (cs : List Char) : Nat :=
  match cs with
  | '\x7b' :: '%' :: rest =>
    match keywordTag? ['r', 'a', 'w'] (openingControl rest).2 with
    | some (_, verbatim) => lineAfter line (consumed cs verbatim)
    | none => line
  | _ => line

/-- The sign that the delimiter at the beginning of a text has on its inner side. -/
def leadingControl (cs : List Char) : Control :=
  (openingControl (cs.drop 2)).1

/-- The tokens of a text read in a mode from a line on. Each step uses up at least one character,
so the fuel, the length of the text and one, suffices. -/
def run : Nat → Mode → Nat → List Char → List Lexeme
  | 0, _, _, _ => []
  | fuel + 1, .text control, line, cs =>
    let start := if control = .remove then cs.dropWhile isBlank else cs
    let line := lineAfter line (consumed cs start)
    let (before, rest) := cutAtDelimiter start
    let shown := if leadingControl rest = .remove then dropEndWhile isBlank before else before
    let lead := if shown.isEmpty then [] else [⟨.text shown, line⟩]
    let line := lineAfter line before
    match rest with
    | [] => lead
    | _ :: _ =>
      let (token, mode, after) := delimiter rest
      let own := token.toList.map fun t => ⟨t, delimiterLine line rest⟩
      lead ++ own ++ run fuel mode (lineAfter line (consumed rest after)) after
  | fuel + 1, mode, line, cs =>
    let start := cs.dropWhile isSpace
    let line := lineAfter line (consumed cs start)
    match start with
    | [] => []
    | _ :: _ =>
      match closing? mode.delimiter start with
      | some (control, rest) =>
        ⟨mode.endToken, line⟩ ::
          run fuel (.text control) (lineAfter line (consumed start rest)) rest
      | none =>
        let (token, rest) := token start
        ⟨token, line⟩ :: run fuel mode (lineAfter line (consumed start rest)) rest

end Lexer

def lexemes (source : List Char) : List Lexeme :=
  Lexer.run (source.length + 1) (.text .keep) 1 source

end Scaffold.Template

import Scaffold.Text.Find
import Scaffold.Toml.Quoted
import Scaffold.Toml.Value
/-!
# TOML scalars

TOML values that are single words: truth values, numbers and moments. A number with a fraction is
written without an exponent and without needless zeros; a moment is written with a `T` between
date and time.
-/

namespace Scaffold.Toml

open Text

/-- The digits of a number in which single underscores may stand between digits. -/
def digits? (isDigit : Char → Bool) (cs : List Char) : Option (List Char) :=
  let groups := fields '_' cs
  if groups.all fun group => !group.isEmpty && group.all isDigit then some groups.flatten else none

def natOf (base : Nat) (digits : List Char) : Nat :=
  digits.foldl (fun n c => n * base + (hexValue? c).getD 0) 0

def isDigitOf (base : Nat) (c : Char) : Bool :=
  (hexValue? c).any (· < base)

def fitting? (n : Int) : Option Value :=
  if Int64.minValue.toInt ≤ n ∧ n ≤ Int64.maxValue.toInt then some (.integer n) else none

def cutSign : List Char → Bool × List Char
  | '-' :: cs => (true, cs)
  | '+' :: cs => (false, cs)
  | cs => (false, cs)

def decimal? (cs : List Char) : Option (List Char) :=
  match digits? Char.isDigit cs with
  | some ('0' :: _ :: _) => none
  | digits => digits

def integer? (cs : List Char) : Option Value :=
  let based := fun base digits => (digits? (isDigitOf base) digits).bind fun ds =>
    fitting? (natOf base ds)
  match cs with
  | '0' :: 'x' :: digits => based 16 digits
  | '0' :: 'o' :: digits => based 8 digits
  | '0' :: 'b' :: digits => based 2 digits
  | cs =>
    let (negative, digits) := cutSign cs
    (decimal? digits).bind fun ds =>
      let n : Int := natOf 10 ds
      fitting? (if negative then -n else n)

/-- The positional text of a decimal number whose point stands after `point` digits. -/
def positional (digits : List Char) (point : Int) : List Char :=
  let n := digits.length
  if point ≤ 0 then ['0', '.'] ++ List.replicate point.natAbs '0' ++ digits
  else if point.toNat ≥ n then digits ++ List.replicate (point.toNat - n) '0'
  else digits.take point.toNat ++ ['.'] ++ digits.drop point.toNat

/-- The canonical text of a decimal number: digits, and the number of them before the point. -/
def floatText (negative : Bool) (digits : List Char) (point : Int) : String :=
  let significant := (digits.dropWhile (· = '0'))
  let point := point - (digits.length - significant.length : Nat)
  let significant := (significant.reverse.dropWhile (· = '0')).reverse
  let body := if significant.isEmpty then ['0'] else positional significant point
  String.ofList ((if negative then ['-'] else []) ++ body)

def cutExponent (cs : List Char) : List Char × Option (List Char) :=
  (cs.takeWhile fun c => c != 'e' && c != 'E',
    match cs.dropWhile fun c => c != 'e' && c != 'E' with
    | [] => none
    | _ :: rest => some rest)

def exponent? : Option (List Char) → Option Int
  | none => some 0
  | some cs =>
    let (negative, digits) := cutSign cs
    (digits? Char.isDigit digits).map fun ds =>
      let n : Int := natOf 10 ds
      if negative then -n else n

def float? (cs : List Char) : Option Value :=
  let (negative, body) := cutSign cs
  match body with
  | ['i', 'n', 'f'] => some (.float (if negative then "-inf" else "inf"))
  | ['n', 'a', 'n'] => some (.float "NaN")
  | body =>
    let (mantissa, exponent) := cutExponent body
    match fields '.' mantissa, exponent? exponent with
    | [whole], some e =>
      if exponent.isNone then none
      else (decimal? whole).map fun ds => .float (floatText negative ds (ds.length + e))
    | [whole, fraction], some e => do
      let ds ← decimal? whole
      let fs ← digits? Char.isDigit fraction
      return .float (floatText negative (ds ++ fs) (ds.length + e))
    | _, _ => none

def twoDigits? (most : Nat) (cs : List Char) : Option Nat :=
  match cs with
  | [a, b] =>
    if a.isDigit ∧ b.isDigit ∧ natOf 10 [a, b] ≤ most then some (natOf 10 [a, b]) else none
  | _ => none

def daysOf (year month : Nat) : Nat :=
  if month = 2 then if year % 4 = 0 ∧ (year % 100 ≠ 0 ∨ year % 400 = 0) then 29 else 28
  else if [4, 6, 9, 11].contains month then 30 else 31

def isDate (cs : List Char) : Bool :=
  match fields '-' cs with
  | [year, month, day] =>
    year.length = 4 && year.all Char.isDigit &&
      match twoDigits? 12 month, twoDigits? 31 day with
      | some m, some d => 1 ≤ m && 1 ≤ d && d ≤ daysOf (natOf 10 year) m
      | _, _ => false
  | _ => false

/-- The canonical form of a time of day: a fraction of at most nine digits, without needless
zeros. -/
def time? (cs : List Char) : Option (List Char) :=
  let clock := cs.takeWhile (· != '.')
  let isClock := match fields ':' clock with
    | [hour, minute, second] =>
      (twoDigits? 23 hour).isSome && (twoDigits? 59 minute).isSome && (twoDigits? 60 second).isSome
    | _ => false
  if !isClock then none
  else
    match cs.dropWhile (· != '.') with
    | [] => some clock
    | ['.'] => none
    | _ :: fraction =>
      if fraction.all Char.isDigit then
        match ((fraction.take 9).reverse.dropWhile (· = '0')).reverse with
        | [] => some clock
        | kept => some (clock ++ '.' :: kept)
      else none

def offset? (cs : List Char) : Option (List Char) :=
  match cs with
  | ['Z'] | ['z'] => some ['Z']
  | sign :: rest =>
    match fields ':' rest with
    | [hour, minute] =>
      if (sign = '+' ∨ sign = '-') ∧ (twoDigits? 23 hour).isSome ∧ (twoDigits? 59 minute).isSome then
        some cs
      else none
    | _ => none
  | [] => none

def timeWithOffset? (cs : List Char) : Option (List Char) :=
  let isClock := fun c : Char => c.isDigit || c = ':' || c = '.'
  match cs.dropWhile isClock with
  | [] => time? cs
  | offset => do return (← time? (cs.takeWhile isClock)) ++ (← offset? offset)

def moment? (cs : List Char) : Option Value :=
  let date := cs.take 10
  if isDate date then
    match cs.drop 10 with
    | [] => some (.moment (String.ofList date))
    | mark :: time =>
      if mark = 'T' ∨ mark = 't' ∨ mark = ' ' then
        (timeWithOffset? time).map fun t => .moment (String.ofList (date ++ 'T' :: t))
      else none
  else (time? cs).map fun t => .moment (String.ofList t)

def word? (cs : List Char) : Option Value :=
  match cs with
  | ['t', 'r', 'u', 'e'] => some (.boolean true)
  | ['f', 'a', 'l', 's', 'e'] => some (.boolean false)
  | cs => ((integer? cs).or (float? cs)).or (moment? cs)

def isWordCharacter (c : Char) : Bool :=
  c.isAlphanum || c = '+' || c = '-' || c = '_' || c = '.' || c = ':'

/-- Cuts the word a text begins with; a date may be followed by a blank and a time. -/
def cutWord (cs : List Char) : List Char × List Char :=
  let word := cs.takeWhile isWordCharacter
  match cs.dropWhile isWordCharacter with
  | ' ' :: d :: rest =>
    if isDate word && d.isDigit then
      (word ++ ' ' :: (d :: rest).takeWhile isWordCharacter, (d :: rest).dropWhile isWordCharacter)
    else (word, ' ' :: d :: rest)
  | rest => (word, rest)

end Scaffold.Toml

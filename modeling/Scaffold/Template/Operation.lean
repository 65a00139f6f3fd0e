import Scaffold.Template.Value
import Scaffold.Text.Find
/-!
# Operators

Operators of the template language. Numbers are integers of 128 bits; a result outside their range
is an invalid operation.
-/

namespace Scaffold.Template

inductive Operator where
  | add | subtract | multiply | divide | floorDivide | remainder | power
  | concat
  | equal | notEqual | less | lessEqual | greater | greaterEqual
  | isIn
  deriving DecidableEq, Repr

namespace Operator

/-- The least number that does not fit in 128 bits with a sign. -/
def bound128 : Int := 0x80000000000000000000000000000000

def number (n : Int) : Except Cause Value :=
  if -bound128 ≤ n ∧ n < bound128 then .ok (.int n) else .error .invalidOperation

def onNumbers (f : Int → Int → Except Cause Value) (a b : Value) : Except Cause Value :=
  match a.int?, b.int? with
  | some m, some n => f m n
  | _, _ => .error .invalidOperation

def sum (a b : Value) : Except Cause Value :=
  match a, b with
  | .str s, .str t => .ok (.str (s ++ t))
  | .seq xs, .seq ys => .ok (.stream true (xs ++ ys))
  | .seq xs, .stream counted ys | .stream counted xs, .seq ys => .ok (.stream counted (xs ++ ys))
  | .stream c xs, .stream d ys => .ok (.stream (c && d) (xs ++ ys))
  | a, b => onNumbers (fun m n => number (m + n)) a b

def repetitions (v : Value) : Except Cause Nat :=
  match v.int? with
  | some n => if 0 ≤ n then .ok n.toNat else .error .invalidOperation
  | none => .error .invalidOperation

def product (a b : Value) : Except Cause Value :=
  match a, b with
  | .str s, n | n, .str s => do
    return .str (String.ofList (List.replicate (← repetitions n) s.toList).flatten)
  | .seq xs, n | n, .seq xs | .stream true xs, n | n, .stream true xs => do
    return .stream true (List.replicate (← repetitions n) xs).flatten
  | a, b => onNumbers (fun m n => number (m * n)) a b

def raise (m n : Int) : Except Cause Value :=
  if n < 0 ∨ (127 < n ∧ 1 < m.natAbs) then .error .invalidOperation
  else if 127 < n then number (if m = -1 ∧ n % 2 = 0 then 1 else m)
  else number (Int.pow m n.toNat)

def contains (container v : Value) : Except Cause Bool :=
  match container with
  | .undefined false => .error .undefinedValue
  | .undefined true => .ok false
  | .str s => .ok (Text.occursIn v.text.toList s.toList)
  | .seq items | .stream _ items => .ok (items.any (Value.same v))
  | .map entries => .ok (Value.lookup? v entries).isSome
  | .loop .. | .builtin _ => .ok false
  | _ => .error .invalidOperation

def apply (op : Operator) (a b : Value) : Except Cause Value :=
  match op with
  | add => sum a b
  | subtract => onNumbers (fun m n => number (m - n)) a b
  | multiply => product a b
  | divide => .error .invalidOperation
  | floorDivide =>
    onNumbers (fun m n => if n = 0 then .error .invalidOperation else number (m.fdiv n)) a b
  | remainder =>
    onNumbers (fun m n => if n = 0 then .error .invalidOperation else number (m.fmod n)) a b
  | power => onNumbers raise a b
  | concat => .ok (.str (a.text ++ b.text))
  | equal => .ok (.bool (a.same b))
  | notEqual => .ok (.bool !(a.same b))
  | less => .ok (.bool (a.compare b).isLT)
  | lessEqual => .ok (.bool (a.compare b).isLE)
  | greater => .ok (.bool (a.compare b).isGT)
  | greaterEqual => .ok (.bool (a.compare b).isGE)
  | isIn => (contains b a).map .bool

def negate (v : Value) : Except Cause Value :=
  match v with
  | .int n => number (-n)
  | _ => .error .invalidOperation

def bound (v : Value) : Except Cause (Option Int) :=
  match v, v.int? with
  | .none, _ => .ok none
  | _, some n => .ok (some n)
  | _, none => .error .invalidOperation

/-- A bound counted from the start and limited to `low … high`. -/
def clamp (length low high : Int) (n : Int) : Int :=
  max low (min high (if n < 0 then n + length else n))

/-- The items at `start`, `start + step`, … as long as they lie before `stop` in the direction of
the step, at most `count` of them. -/
def strided (items : List Value) (start stop step : Int) : Nat → List Value
  | 0 => []
  | count + 1 =>
    if (0 < step ∧ start < stop) ∨ (step < 0 ∧ stop < start) then
      (items[start.toNat]?).toList ++ strided items (start + step) stop step count
    else []

def sliceItems (items : List Value) (start stop : Option Int) (step : Int) : List Value :=
  let length : Int := items.length
  if 0 < step then
    strided items ((start.map (clamp length 0 length)).getD 0)
      ((stop.map (clamp length 0 length)).getD length) step items.length
  else
    strided items ((start.map (clamp length (-1) (length - 1))).getD (length - 1))
      ((stop.map (clamp length (-1) (length - 1))).getD (-1)) step items.length

/-- A part of a list, a stream or a text given by two bounds and a step. Where the number of items
is not known, nothing lies between bounds that are counted from the end. -/
def slice (v start stop step : Value) : Except Cause Value := do
  if let .undefined false := v then throw .undefinedValue
  let start ← bound start
  let stop ← bound stop
  let step := (← bound step).getD 1
  if step = 0 then throw .invalidOperation
  match v with
  | .undefined true | .none => return .seq []
  | .seq items | .stream true items => return .stream true (sliceItems items start stop step)
  | .stream false items =>
    let known := step < 0 || (start.all (0 ≤ ·) && stop.any (0 ≤ ·))
    return .stream (step < 0) (if known then sliceItems items start stop step else [])
  | .str s =>
    return .str (String.join ((sliceItems (Value.characters s) start stop step).map Value.text))
  | _ => throw .invalidOperation

end Operator

end Scaffold.Template

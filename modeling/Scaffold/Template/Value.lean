import Scaffold.Text.Quoted
/-!
# Template values

Values of the template language: their truth, their printed form, their order and their parts.
-/

namespace Scaffold.Template

inductive Cause where
  | badForm
  | undefinedValue
  | invalidOperation
  | unknownFunction
  | unknownFilter
  | unknownTest
  | unknownMethod
  | missingArgument
  | tooManyArguments
  | templateNotFound
  | cannotUnpack
  | badEscape
  deriving DecidableEq, Repr

def Cause.message : Cause → String
  | badForm => "syntax error"
  | undefinedValue => "undefined value"
  | invalidOperation => "invalid operation"
  | unknownFunction => "unknown function"
  | unknownFilter => "unknown filter"
  | unknownTest => "unknown test"
  | unknownMethod => "unknown method"
  | missingArgument => "missing argument"
  | tooManyArguments => "too many arguments"
  | templateNotFound => "template not found"
  | cannotUnpack => "cannot unpack"
  | badEscape => "bad string escape"

inductive Builtin where
  | range
  | option
  deriving DecidableEq, Repr

/-- The values of expressions. A name without a value is undefined; a conditional without an
alternative gives a silent undefined value, which prints as nothing. -/
inductive Value where
  | undefined (silent : Bool)
  | none
  | bool (b : Bool)
  | int (n : Int)
  | str (s : String)
  | seq (items : List Value)
  /-- Items that are produced one after the other. Unless they are counted, their number is not
  known before the last one. -/
  | stream (counted : Bool) (items : List Value)
  | map (entries : List (Value × Value))
  | builtin (f : Builtin)
  /-- The state of a loop: its position, its length if that is known, how many loops are around it,
  and the neighbouring items. -/
  | loop (index : Nat) (length : Option Nat) (depth : Nat) (previous next : Value)

namespace Value

def missing : Value := undefined false

def isUndefined : Value → Bool
  | undefined _ => true
  | _ => false

def str? : Value → Option String
  | str s => some s
  | _ => Option.none

def int? : Value → Option Int
  | int n => some n
  | bool b => some (if b then 1 else 0)
  | _ => Option.none

def characters (s : String) : List Value :=
  s.toList.map fun c => str (String.singleton c)

def truth : Value → Bool
  | undefined _ => false
  | none => false
  | bool b => b
  | int n => n ≠ 0
  | str s => s ≠ ""
  | seq items => !items.isEmpty
  | stream counted items => !counted || !items.isEmpty
  | map entries => !entries.isEmpty
  | builtin _ => true
  | loop .. => true

/-- Whether a value counts as true, where undefined values are not accepted. -/
def truth? : Value → Except Cause Bool
  | undefined false => .error .undefinedValue
  | v => .ok v.truth

mutual

def repr : Value → String
  | undefined _ => "undefined"
  | none => "None"
  | bool b => if b then "True" else "False"
  | int n => toString n
  | str s => Text.quote s
  | seq items => "[" ++ String.intercalate ", " (reprItems items) ++ "]"
  | stream true items => "[" ++ String.intercalate ", " (reprItems items) ++ "]"
  | stream false _ => "Iterable"
  | map entries => "\x7b" ++ String.intercalate ", " (reprEntries entries) ++ "\x7d"
  | builtin .range => "<function range>"
  | builtin .option => "<function option>"
  | loop index length .. => "<loop " ++ toString index ++ "/" ++ toString (length.getD 0) ++ ">"

def reprItems : List Value → List String
  | [] => []
  | v :: vs => repr v :: reprItems vs

def reprEntries : List (Value × Value) → List String
  | [] => []
  | (k, v) :: es => (repr k ++ ": " ++ repr v) :: reprEntries es

end

def text : Value → String
  | undefined _ => ""
  | str s => s
  | v => v.repr

def text? : Value → Except Cause String
  | undefined false => .error .undefinedValue
  | v => .ok v.text

def rank : Value → Nat
  | undefined _ => 0
  | none => 1
  | bool _ => 2
  | int _ => 3
  | str _ => 4
  | seq _ => 6
  | map _ => 7
  | stream .. => 8
  | builtin _ => 9
  | loop .. => 9

mutual

/-- Equality of values: by content, a truth value being equal to the number it counts as, a stream
to the list of its items, and maps regardless of the order of their entries. -/
def same : Value → Value → Bool
  | undefined _, undefined _ => true
  | none, none => true
  | bool a, bool b => a == b
  | int a, int b => a == b
  | bool a, int b => (if a then 1 else 0) == b
  | int a, bool b => a == (if b then 1 else 0)
  | str a, str b => a == b
  | seq as, seq bs => sameItems as bs
  | seq as, stream _ bs => sameItems as bs
  | stream _ as, seq bs => sameItems as bs
  | stream _ as, stream _ bs => sameItems as bs
  | map as, map bs => as.length == bs.length && within as bs
  | builtin a, builtin b => a == b
  | loop i m d _ _, loop j n e _ _ => i == j && m == n && d == e
  | _, _ => false

def sameItems : List Value → List Value → Bool
  | [], [] => true
  | a :: as, b :: bs => same a b && sameItems as bs
  | _, _ => false

def within : List (Value × Value) → List (Value × Value) → Bool
  | [], _ => true
  | (k, v) :: es, bs => (bs.any fun e => same k e.1 && same v e.2) && within es bs

end

mutual

/-- The order of values: first by kind, then by content. -/
def compare : Value → Value → Ordering
  | bool a, bool b => compareOfLessAndEq a.toNat b.toNat
  | int a, int b => compareOfLessAndEq a b
  | str a, str b => compareOfLessAndEq a b
  | seq as, seq bs => compareItems as bs
  | stream _ as, stream _ bs => compareItems as bs
  | map as, map bs => compareEntries as bs
  | a, b => compareOfLessAndEq a.rank b.rank

def compareItems : List Value → List Value → Ordering
  | [], [] => .eq
  | [], _ :: _ => .lt
  | _ :: _, [] => .gt
  | a :: as, b :: bs => (compare a b).then (compareItems as bs)

def compareEntries : List (Value × Value) → List (Value × Value) → Ordering
  | [], [] => .eq
  | [], _ :: _ => .lt
  | _ :: _, [] => .gt
  | (j, v) :: as, (k, w) :: bs => ((compare j k).then (compare v w)).then (compareEntries as bs)

end

def lookup? (key : Value) (entries : List (Value × Value)) : Option Value :=
  (entries.find? fun e => same key e.1).map (·.2)

def loopPart? (index : Nat) (length : Option Nat) (depth : Nat) (previous next : Value)
    (name : String) : Option Value :=
  match name with
  | "index" => some (int (index + 1))
  | "index0" => some (int index)
  | "length" => length.map fun n => int n
  | "revindex" => length.map fun n => int (n - index : Nat)
  | "revindex0" => length.map fun n => int (n - index - 1 : Nat)
  | "first" => some (bool (index = 0))
  | "last" => length.map fun n => bool (index + 1 = n)
  | "depth" => some (int (depth + 1))
  | "depth0" => some (int depth)
  | "previtem" => some previous
  | "nextitem" => some next
  | _ => Option.none

def attr (v : Value) (name : String) : Except Cause Value :=
  match v with
  | undefined _ => .error .undefinedValue
  | map entries => .ok ((lookup? (str name) entries).getD missing)
  | loop index length depth previous next =>
    .ok ((loopPart? index length depth previous next name).getD missing)
  | _ => .ok missing

/-- The item at an index, counted from the end if it is negative. -/
def itemAt? (items : List Value) (index : Int) : Option Value :=
  if 0 ≤ index then items[index.toNat]?
  else if index.natAbs ≤ items.length then items[items.length - index.natAbs]?
  else Option.none

def item (v key : Value) : Except Cause Value :=
  match v with
  | undefined _ => .error .undefinedValue
  | map entries => .ok ((lookup? key entries).getD missing)
  | seq items | stream true items => .ok ((key.int?.bind (itemAt? items)).getD missing)
  | stream false items =>
    .ok ((key.int?.bind fun n => if 0 ≤ n then itemAt? items n else Option.none).getD missing)
  | str s => .ok ((key.int?.bind (itemAt? (characters s))).getD missing)
  | loop .. => match key with
    | str name => v.attr name
    | _ => .ok missing
  | _ => .ok missing

/-- The items a loop goes through: the items of a list or stream, the keys of a map, the characters
of a text. Nothing is iterated for `None`. -/
def items? : Value → Except Cause (List Value)
  | undefined false => .error .undefinedValue
  | undefined true => .ok []
  | none => .ok []
  | str s => .ok (characters s)
  | seq items | stream _ items => .ok items
  | map entries => .ok (entries.map (·.1))
  | _ => .error .invalidOperation

def length? : Value → Option Nat
  | str s => some s.length
  | seq items | stream true items => some items.length
  | map entries => some entries.length
  | _ => Option.none

end Value

end Scaffold.Template

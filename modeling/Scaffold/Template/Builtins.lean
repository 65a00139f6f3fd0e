import Scaffold.Attribute.TypeTag
import Scaffold.Template.Operation
import Scaffold.Text.Blank
import Scaffold.Text.Case
/-!
# Filters, tests and functions

The filters, tests and functions of the template language, as far as generators use them. The engine
has more of them, such as the filters `batch`, `groupby`, `indent`, `round` and `unique` and the
functions `debug`, `dict` and `namespace`; here they are unknown. There are no numbers with a
fraction, so no test finds one and no filter makes one.
-/

namespace Scaffold.Template

open Text

structure Arguments where
  positional : List Value
  keywords : List (String × Value)

namespace Arguments

/-- Checks that there are at most `most` arguments by position and none by keyword, and at least
`least`. -/
def check (args : Arguments) (least most : Nat) : Except Cause Unit :=
  if most < args.positional.length ∨ !args.keywords.isEmpty then .error .tooManyArguments
  else if args.positional.length < least then .error .missingArgument
  else .ok ()

/-- The argument at a position, if it is given and not `None`. -/
def get? (args : Arguments) (i : Nat) : Option Value :=
  match args.positional[i]? with
  | some .none => none
  | v => v

def keyword? (args : Arguments) (name : String) : Option Value :=
  args.keywords.lookup name

def checkKeywords (args : Arguments) (names : List String) : Except Cause Unit :=
  if args.keywords.all fun k => names.contains k.1 then .ok () else .error .tooManyArguments

end Arguments

def characters (v : Value) : Except Cause (List Char) := do
  return (← v.text?).toList

def ofCharacters (cs : List Char) : Value :=
  .str (String.ofList cs)

def startsWord (c : Char) : Bool :=
  isBlank c || (0x21 ≤ c.toNat && c.toNat < 0x7F && !c.isAlphanum)

/-- A text with every word capitalised; `fresh` says whether a word begins here. -/
def title (fresh : Bool) : List Char → List Char
  | [] => []
  | c :: cs =>
    if startsWord c then c :: title true cs
    else (if fresh then upperChar c else lowerChar c) ++ title false cs

def capitalize : List Char → List Char
  | [] => []
  | c :: cs => upperChar c ++ lower cs

/-- The parts of a text after at most `limit` cuts; `cut` gives the text before and after the first
place where it can be cut. -/
def partsBy (cut : List Char → Option (List Char × List Char)) :
    Nat → List Char → List (List Char)
  | 0, cs => [cs]
  | limit + 1, cs =>
    match cut cs with
    | none => [cs]
    | some (before, rest) => before :: partsBy cut limit rest

def cutAtBlank? : List Char → Option (List Char × List Char)
  | [] => none
  | c :: cs =>
    if isBlank c then some ([], cs)
    else (cutAtBlank? cs).map fun (before, rest) => (c :: before, rest)

/-- The parts of a text between occurrences of another, after at most `limit` cuts. Between the
characters and at both ends there is an occurrence of the empty text. -/
def splitBy (separator : List Char) (limit : Option Nat) (cs : List Char) : List (List Char) :=
  if separator.isEmpty then
    let parts := [] :: cs.map ([·]) ++ [[]]
    let cuts := min (limit.getD parts.length) (parts.length - 1)
    parts.take cuts ++ [(parts.drop cuts).flatten]
  else partsBy (cutAt? separator) (limit.getD cs.length) cs

def blankWords (cs : List Char) : List (List Char) :=
  (fieldsBy isBlank cs).filter fun word => !word.isEmpty

def replaceAll (old new cs : List Char) : List Char :=
  if old.isEmpty then new ++ cs.flatMap (· :: new)
  else joinWith new (splitBy old none cs)

/-- The part of a value that a dotted path of names and indices leads to. -/
def path (v : Value) : List (List Char) → Except Cause Value
  | [] => .ok v
  | name :: names => do
    let part ←
      if !name.isEmpty ∧ name.all Char.isDigit then
        v.item (.int (name.foldl (fun n c => n * 10 + (c.toNat - 48)) 0))
      else v.attr (String.ofList name)
    path part names

def attributeOf (v key : Value) : Except Cause Value :=
  match key with
  | .str s => path v (fields '.' s.toList)
  | key => v.item key

/-- The order in which values are sorted: texts regardless of case, unless it counts. -/
def sortOrder (caseCounts : Bool) (a b : Value) : Ordering :=
  match a, b with
  | .str s, .str t =>
    if caseCounts then a.compare b
    else compareOfLessAndEq (s.toList.map Char.toLower) (t.toList.map Char.toLower)
  | a, b => a.compare b

def sortValues (items : List Value) (on : Option Value) (caseCounts : Bool) : List Value :=
  let key := fun v =>
    match on with
    | none => some v
    | some a => (attributeOf v a).toOption
  items.mergeSort fun a b =>
    match key a, key b with
    | some j, some k => (sortOrder caseCounts j k).isLE
    | _, _ => true

def joinValues (items : List Value) (separator : List Char) : Value :=
  ofCharacters (joinWith separator (items.map fun v => v.text.toList))

def reversed : Value → Except Cause Value
  | .str s => .ok (ofCharacters s.toList.reverse)
  | .seq items | .stream _ items => .ok (.stream true items.reverse)
  | .map entries => .ok (.stream true (entries.map (·.1)).reverse)
  | .undefined silent => .ok (.undefined silent)
  | .none => .ok .none
  | _ => .error .invalidOperation

def firstOf : Value → Except Cause Value
  | .str s => .ok ((Value.characters s).head?.getD .missing)
  | .seq items | .stream _ items => .ok (items.head?.getD .missing)
  | .map entries => .ok ((entries.map (·.1)).head?.getD .missing)
  | _ => .error .invalidOperation

def lastOf : Value → Except Cause Value
  | .str s => .ok ((Value.characters s).getLast?.getD .missing)
  | .seq items | .stream _ items => .ok (items.getLast?.getD .missing)
  | _ => .error .invalidOperation

def listItems (v : Value) : Except Cause (List Value) :=
  match v.items? with
  | .ok items => .ok items
  | .error _ => .error .invalidOperation

def numberOf (v : Value) : Except Cause Int :=
  match v with
  | .undefined false => .error .undefinedValue
  | v =>
    match v.int? with
    | some n => .ok n
    | none => .error .invalidOperation

/-- The fields of a text, found one after the other; the second argument bounds the number of
cuts. -/
def splitValue (v : Value) (args : Arguments) : Except Cause Value := do
  let s ←
    match v with
    | .str s => pure s.toList
    | .undefined false => throw .undefinedValue
    | _ => throw .invalidOperation
  let limit ← (args.get? 1).mapM numberOf
  let limit := limit.bind fun n => if 0 ≤ n then some n.toNat else none
  match args.get? 0 with
  | none =>
    match limit with
    | none => return .stream false ((blankWords s).map ofCharacters)
    | some n => return .stream false ((partsBy cutAtBlank? n s).map ofCharacters)
  | some separator =>
    return .stream false ((splitBy (← characters separator) limit s).map ofCharacters)

/-- The filters that do not call other filters or tests, by name. -/
def plainFilter? (name : String) : Option (Value → Arguments → Except Cause Value) :=
  match name with
  | "upper" => some fun v args => do
    args.check 0 0
    return ofCharacters (upper (← characters v))
  | "lower" => some fun v args => do
    args.check 0 0
    return ofCharacters (lower (← characters v))
  | "capitalize" => some fun v args => do
    args.check 0 0
    return ofCharacters (capitalize (← characters v))
  | "title" => some fun v args => do
    args.check 0 0
    return ofCharacters (title true (← characters v))
  | "replace" => some fun v args => do
    args.check 2 2
    let s ← characters v
    let old ← characters (args.positional.getD 0 .none)
    let new ← characters (args.positional.getD 1 .none)
    return ofCharacters (replaceAll old new s)
  | "trim" => some fun v args => do
    args.check 0 1
    let s ← characters v
    match args.get? 0 with
    | none => return ofCharacters (trim s)
    | some chars =>
      let chars ← characters chars
      return ofCharacters (trimWhile chars.contains s)
  | "split" => some fun v args => do
    args.check 0 2
    splitValue v args
  | "join" => some fun v args => do
    args.check 0 1
    let separator ← (args.get? 0).mapM characters
    match v with
    | .undefined _ | .none => return .str ""
    | v => return joinValues (← listItems v) (separator.getD [])
  | "length" | "count" => some fun v args => do
    args.check 0 0
    match v.length? with
    | some n => return .int n
    | none => throw .invalidOperation
  | "first" => some fun v args => do
    args.check 0 0
    firstOf v
  | "last" => some fun v args => do
    args.check 0 0
    lastOf v
  | "reverse" => some fun v args => do
    args.check 0 0
    reversed v
  | "default" | "d" => some fun v args => do
    args.check 0 2
    let other := args.positional.getD 0 (.str "")
    let lax := ((args.positional[1]?).map Value.truth).getD false
    return if v.isUndefined ∨ (lax ∧ !v.truth) then other else v
  | "list" => some fun v args => do
    args.check 0 0
    return .seq (← listItems v)
  | "items" => some fun v args => do
    args.check 0 0
    match v with
    | .map entries => return .seq (entries.map fun (k, v) => .seq [k, v])
    | _ => throw .invalidOperation
  | "sort" => some fun v args => do
    let items ← listItems v
    args.checkKeywords ["attribute", "reverse", "case_sensitive"]
    if !args.positional.isEmpty then throw .tooManyArguments
    let truthOf := fun name => ((args.keyword? name).map Value.truth).getD false
    let sorted := sortValues items (args.keyword? "attribute") (truthOf "case_sensitive")
    return .seq (if truthOf "reverse" then sorted.reverse else sorted)
  | "string" | "safe" => some fun v args => do
    args.check 0 0
    return .str (← v.text?)
  | "abs" => some fun v args => do
    args.check 0 0
    Operator.number (← numberOf v).natAbs
  | _ => none

def mapAttribute (v key : Value) (other : Option Value) : Except Cause Value := do
  let items ← v.items?
  let parts ← items.mapM fun item => do
    let part ← attributeOf item key
    return if part.isUndefined then other.getD .missing else part
  return .seq parts

def test? (name : String) : Option (Value → Arguments → Except Cause Bool) :=
  let unary (p : Value → Bool) := some fun (v : Value) (args : Arguments) => do
    args.check 0 0
    return p v
  let compared (p : Ordering → Bool) := some fun (v : Value) (args : Arguments) => do
    args.check 1 1
    return p (v.compare (args.positional.getD 0 .none))
  let onTexts (p : List Char → List Char → Bool) :=
    some fun (v : Value) (args : Arguments) => do
      args.check 1 1
      return p (← characters v) (← characters (args.positional.getD 0 .none))
  match name with
  | "defined" => unary fun v => !v.isUndefined
  | "undefined" => unary Value.isUndefined
  | "none" => unary fun
    | .none => true
    | _ => false
  | "true" => unary fun
    | .bool true => true
    | _ => false
  | "false" => unary fun
    | .bool false => true
    | _ => false
  | "boolean" => unary fun
    | .bool _ => true
    | _ => false
  | "number" | "integer" | "int" => unary fun
    | .int _ => true
    | _ => false
  | "float" => unary fun _ => false
  | "string" => unary fun
    | .str _ => true
    | _ => false
  | "sequence" => unary fun
    | .seq _ => true
    | _ => false
  | "mapping" => unary fun
    | .map _ => true
    | _ => false
  | "iterable" => unary fun v => v.items?.toOption.isSome
  | "odd" => unary fun v => v.int?.any fun n => n % 2 = 1
  | "even" => unary fun v => v.int?.any fun n => n % 2 = 0
  | "divisibleby" => some fun v args => do
    args.check 1 1
    return match v.int?, (args.positional.getD 0 .none).int? with
      | some m, some n => n ≠ 0 && m % n = 0
      | _, _ => false
  | "eq" | "equalto" | "==" => some fun v args => do
    args.check 1 1
    return v.same (args.positional.getD 0 .none)
  | "ne" | "!=" => some fun v args => do
    args.check 1 1
    return !(v.same (args.positional.getD 0 .none))
  | "lt" | "lessthan" | "<" => compared Ordering.isLT
  | "le" | "<=" => compared Ordering.isLE
  | "gt" | "greaterthan" | ">" => compared Ordering.isGT
  | "ge" | ">=" => compared Ordering.isGE
  | "in" => some fun v args => do
    args.check 1 1
    Operator.contains (args.positional.getD 0 .none) v
  | "startingwith" => onTexts fun s start => start.isPrefixOf s
  | "endingwith" => onTexts fun s ending => ending.isSuffixOf s
  | "lower" => unary fun v => v.text.toList.all isLowercase
  | "upper" => unary fun v => v.text.toList.all isUppercase
  | _ => none

/-- The items that pass a test, or those that do not. The test is applied to the item or to its
part under an attribute; without a test its truth decides. -/
def select (keep onAttribute : Bool) (v : Value) (args : Arguments) : Except Cause Value := do
  if !args.keywords.isEmpty then throw .tooManyArguments
  let (on, rest) ←
    match onAttribute, args.positional with
    | true, [] => throw .missingArgument
    | true, a :: rest => pure (some a, rest)
    | false, rest => pure (none, rest)
  let passes ←
    match rest with
    | [] => pure fun (v : Value) => pure v.truth
    | name :: testArgs =>
      match test? (← name.text?) with
      | none => throw .unknownTest
      | some test => pure fun v => test v ⟨testArgs, []⟩
  let kept ← (← v.items?).filterM fun item => do
    let subject ←
      match on with
      | none => pure item
      | some a => attributeOf item a
    return (← passes subject) == keep
  return .seq kept

def applyFilter (name : String) (v : Value) (args : Arguments) : Except Cause Value :=
  match name with
  | "map" =>
    match args.keyword? "attribute" with
    | some key => do
      args.checkKeywords ["attribute", "default"]
      if !args.positional.isEmpty then throw .tooManyArguments
      mapAttribute v key (args.keyword? "default")
    | none =>
      match args.positional with
      | [] => .error .invalidOperation
      | inner :: rest => do
        match inner with
        | .str inner =>
          match plainFilter? inner with
          | none => throw .unknownFilter
          | some filter => return .seq (← (← v.items?).mapM fun item => filter item ⟨rest, args.keywords⟩)
        | _ => throw .invalidOperation
  | "select" => select true false v args
  | "reject" => select false false v args
  | "selectattr" => select true true v args
  | "rejectattr" => select false true v args
  | name =>
    match plainFilter? name with
    | none => .error .unknownFilter
    | some filter => filter v args

def applyTest (name : String) (v : Value) (args : Arguments) : Except Cause Bool :=
  match test? name with
  | none => .error .unknownTest
  | some test => test v args

def maxRange : Nat := 100000

/-- The numbers from `start` on in steps up to but not including `stop`. -/
def rangeValues (start stop step : Int) : Except Cause Value :=
  if step = 0 then .error .invalidOperation
  else
    let count :=
      if 0 < step then (stop - start + step - 1) / step else (start - stop - step - 1) / (-step)
    if (maxRange : Int) < count then .error .invalidOperation
    else .ok (.stream true ((List.range count.toNat).map fun (i : Nat) => .int (start + step * i)))

def typeTag? : Value → Option String
  | .str tag => some tag
  | .map entries => (Value.lookup? (.str "type_tag") entries).bind Value.str?
  | _ => none

def Builtin.call (f : Builtin) (args : Arguments) : Except Cause Value :=
  match f with
  | .range => do
    args.check 1 3
    let numbers ← args.positional.mapM numberOf
    match numbers with
    | [stop] => rangeValues 0 stop 1
    | [start, stop] => rangeValues start stop 1
    | [start, stop, step] => rangeValues start stop step
    | _ => throw .missingArgument
  | .option => do
    args.check 1 1
    match typeTag? (args.positional.getD 0 .none) with
    | some tag => return .str (TypeTag.columnOption tag)
    | none => throw .invalidOperation

def builtin? (name : String) : Option Builtin :=
  match name with
  | "range" => some .range
  | "option" => some .option
  | _ => none

def callValue (function : Value) (args : Arguments) : Except Cause Value :=
  match function with
  | .builtin f => f.call args
  | _ => .error .invalidOperation

/-- The value of a method call. A map has the methods that its entries are; a loop can cycle
through the arguments. -/
def callMethod (object : Value) (name : String) (args : Arguments) : Except Cause Value :=
  match object with
  | .map entries =>
    match Value.lookup? (.str name) entries with
    | some function => callValue function args
    | none => .error .unknownMethod
  | .loop index .. =>
    if name = "cycle" then
      .ok ((args.positional[index % args.positional.length]?).getD .missing)
    else .error .unknownMethod
  | _ => .error .unknownMethod

end Scaffold.Template

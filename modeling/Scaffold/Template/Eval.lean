import Scaffold.Template.Builtins
import Scaffold.Template.Parser
/-!
# Evaluation

Evaluation of expressions and statements. Names are looked up from the innermost frame outwards,
then among the functions every template can call. Loops and scopes open a frame; a conditional
does not. Nothing is written before the whole template succeeds.
-/

namespace Scaffold.Template

structure Frame where
  /-- The values of names, the latest assignment first. -/
  vars : List (String × Value)
  loop? : Option Value

structure Scope where
  top : Frame
  /-- The frames around it, from the inside out. -/
  outer : List Frame

namespace Frame

def lookup? (frame : Frame) (name : String) : Option Value :=
  match frame.vars.lookup name with
  | some v => some v
  | none => if name = "loop" then frame.loop? else none

def set (frame : Frame) (name : String) (v : Value) : Frame :=
  { frame with vars := (name, v) :: frame.vars }

end Frame

namespace Scope

def lookup (scope : Scope) (name : String) : Value :=
  match (scope.top :: scope.outer).findSome? (·.lookup? name) with
  | some v => v
  | none =>
    match builtin? name with
    | some f => .builtin f
    | none => .missing

def push (scope : Scope) (frame : Frame) : Scope :=
  ⟨frame, scope.top :: scope.outer⟩

def loopDepth (scope : Scope) : Nat :=
  (scope.top :: scope.outer).countP (·.loop?.isSome)

end Scope

/-- A result whose failure is reported at a line. -/
def at? {α : Type} (line : Nat) : Except Cause α → Except Fault α
  | .ok a => .ok a
  | .error cause => .error ⟨cause, line⟩

/-- The entries of alternating keys and values; a later value of a key replaces an earlier one. -/
def pairUp : List Value → List (Value × Value) → List (Value × Value)
  | k :: v :: rest, before =>
    if (Value.lookup? k before).isSome then
      pairUp rest (before.map fun e => if k.same e.1 then (e.1, v) else e)
    else pairUp rest (before ++ [(k, v)])
  | _, before => before

mutual

def evalExpr (scope : Scope) : Expr → Except Fault Value
  | .literal _ v => .ok v
  | .var _ name => .ok (scope.lookup name)
  | .list _ items => do return .seq (← evalList scope items)
  | .map _ parts => do return .map (pairUp (← evalList scope parts) [])
  | .attr object name => do
    let v ← evalExpr scope object
    at? object.lastLine (v.attr name)
  | .item object key => do
    let v ← evalExpr scope object
    let k ← evalExpr scope key
    at? key.lastLine (v.item k)
  | .slice object start stop step => do
    let v ← evalExpr scope object
    let a ← evalExpr scope start
    let b ← evalExpr scope stop
    let c ← evalExpr scope step
    at? step.lastLine (Operator.slice v a b c)
  | .negate line operand => do
    let v ← evalExpr scope operand
    at? line (Operator.negate v)
  | .not operand => do
    let v ← evalExpr scope operand
    return .bool !(← at? operand.lastLine v.truth?)
  | .and left right => do
    let v ← evalExpr scope left
    if ← at? left.lastLine v.truth? then evalExpr scope right else return v
  | .or left right => do
    let v ← evalExpr scope left
    if ← at? left.lastLine v.truth? then return v else evalExpr scope right
  | .binary op left right => do
    let a ← evalExpr scope left
    let b ← evalExpr scope right
    at? right.lastLine (op.apply a b)
  | .ifElse test yes no => do
    let v ← evalExpr scope test
    if ← at? test.lastLine v.truth? then evalExpr scope yes else evalExpr scope no
  | .filter _ object name args => do
    let v ← evalExpr scope object
    let values ← evalArgs scope args
    at? ((lastLineOfArgs args).getD object.lastLine) (applyFilter name v values)
  | .test _ object name args => do
    let v ← evalExpr scope object
    let values ← evalArgs scope args
    return .bool (← at? ((lastLineOfArgs args).getD object.lastLine) (applyTest name v values))
  | .call line name args => do
    let values ← evalArgs scope args
    at? ((lastLineOfArgs args).getD line)
      (match scope.lookup name with
        | .undefined _ => .error .unknownFunction
        | function => callValue function values)
  | .method object name args => do
    let v ← evalExpr scope object
    let values ← evalArgs scope args
    at? ((lastLineOfArgs args).getD object.lastLine) (callMethod v name values)
  | .apply function args => do
    let v ← evalExpr scope function
    let values ← evalArgs scope args
    at? ((lastLineOfArgs args).getD function.lastLine) (callValue v values)

def evalList (scope : Scope) : List Expr → Except Fault (List Value)
  | [] => .ok []
  | e :: es => do
    let v ← evalExpr scope e
    return v :: (← evalList scope es)

def evalArgs (scope : Scope) : List Argument → Except Fault Arguments
  | [] => .ok ⟨[], []⟩
  | .positional e :: args => do
    let v ← evalExpr scope e
    let rest ← evalArgs scope args
    return { rest with positional := v :: rest.positional }
  | .keyword name e :: args => do
    let v ← evalExpr scope e
    let rest ← evalArgs scope args
    return { rest with keywords := (name, v) :: rest.keywords }

end

mutual

/-- Assigns a value to a target; a target of several parts takes a list of as many items. -/
def assign (frame : Frame) : Target → Value → Except Fault Frame
  | .name name, v => .ok (frame.set name v)
  | .parts line targets, v =>
    match v with
    | .seq items | .stream _ items =>
      if items.length = targets.length then assignParts frame targets items
      else .error ⟨.cannotUnpack, line⟩
    | .map entries =>
      if entries.length = targets.length then assignParts frame targets (entries.map (·.1))
      else .error ⟨.cannotUnpack, line⟩
    | _ => .error ⟨.cannotUnpack, line⟩

def assignParts (frame : Frame) : List Target → List Value → Except Fault Frame
  | target :: targets, v :: vs => do assignParts (← assign frame target v) targets vs
  | _, _ => .ok frame

end

/-- Runs a step for each item of a loop, with the state of the loop in the frame. The frame that a
step leaves is the one the next step starts with. -/
def runLoop (step : Value → Frame → Except Fault (String × Frame)) (length : Option Nat)
    (depth : Nat) : Nat → Value → Frame → List Value → Except Fault String
  | _, _, _, [] => .ok ""
  | index, previous, frame, v :: vs => do
    let state := Value.loop index length depth previous (vs.head?.getD .missing)
    let (out, frame) ← step v { frame with loop? := some state }
    return out ++ (← runLoop step length depth (index + 1) v frame vs)

def assignAll (scope : Scope) : List (Target × Expr) → Frame → Except Fault Frame
  | [], frame => .ok frame
  | (target, e) :: rest, frame => do
    let v ← evalExpr (scope.push frame) e
    assignAll scope rest (← assign frame target v)

def keepItems (scope : Scope) (target : Target) (condition : Option Expr) (items : List Value) :
    Except Fault (List Value) :=
  match condition with
  | none => .ok items
  | some e => items.filterM fun v => do
    let frame ← assign ⟨[], none⟩ target v
    at? e.lastLine (← evalExpr (scope.push frame) e).truth?

/-- Looks for another template; there is none. -/
def missingTemplate (name : Value) (ignoreMissing : Bool) : Except Cause String :=
  match name with
  | .str _ | .seq _ => if ignoreMissing then .ok "" else .error .templateNotFound
  | _ => .error .invalidOperation

mutual

def runStmt (scope : Scope) : Stmt → Except Fault (String × Scope)
  | .text s => .ok (String.ofList s, scope)
  | .emit e => do
    let v ← evalExpr scope e
    return (← at? e.lastLine v.text?, scope)
  | .forEach target items condition body otherwise => do
    let v ← evalExpr scope items
    let all ← at? items.lastLine v.items?
    let kept ← keepItems scope target condition all
    let length :=
      match v, condition with
      | .stream false _, none => none
      | _, _ => some kept.length
    if kept.isEmpty then runAll scope otherwise
    else
      let step := fun v frame => do
        let frame ← assign frame target v
        let (out, after) ← runAll (scope.push frame) body
        return (out, after.top)
      return (← runLoop step length scope.loopDepth 0 .missing ⟨[], none⟩ kept, scope)
  | .ifElse test yes no => do
    let v ← evalExpr scope test
    if ← at? test.lastLine v.truth? then runAll scope yes else runAll scope no
  | .set target e => do
    let v ← evalExpr scope e
    return ("", { scope with top := ← assign scope.top target v })
  | .scope assignments body => do
    let frame ← assignAll scope assignments ⟨[], none⟩
    let (out, _) ← runAll (scope.push frame) body
    return (out, scope)
  | .includeOther name ignoreMissing => do
    let v ← evalExpr scope name
    return (← at? name.lastLine (missingTemplate v ignoreMissing), scope)

def runAll (scope : Scope) : List Stmt → Except Fault (String × Scope)
  | [] => .ok ("", scope)
  | s :: rest => do
    let (out, scope) ← runStmt scope s
    let (more, scope) ← runAll scope rest
    return (out ++ more, scope)

end

def render (source : String) (names : List (String × Value)) : Except Fault String := do
  let program ← parse source.toList
  let (out, _) ← runAll ⟨⟨[], none⟩, [⟨names, none⟩]⟩ program
  return out

end Scaffold.Template

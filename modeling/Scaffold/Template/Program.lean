import Scaffold.Template.Operation
/-!
# Template programs

The expressions and statements of the template language. Nodes that can fail by themselves carry
the line they are reported at; for the others it is the line of the operand read last.
-/

namespace Scaffold.Template

mutual

inductive Expr where
  | literal (line : Nat) (value : Value)
  | var (line : Nat) (name : String)
  | list (line : Nat) (items : List Expr)
  /-- A map; keys and values alternate. -/
  | map (line : Nat) (parts : List Expr)
  | attr (object : Expr) (name : String)
  | item (object key : Expr)
  | slice (object start stop step : Expr)
  | negate (line : Nat) (operand : Expr)
  | not (operand : Expr)
  | and (left right : Expr)
  | or (left right : Expr)
  | binary (op : Operator) (left right : Expr)
  /-- A conditional: the test comes first. -/
  | ifElse (test yes no : Expr)
  | filter (line : Nat) (object : Expr) (name : String) (args : List Argument)
  | test (line : Nat) (object : Expr) (name : String) (args : List Argument)
  | call (line : Nat) (name : String) (args : List Argument)
  | method (object : Expr) (name : String) (args : List Argument)
  /-- The call of a value that is not a name. -/
  | apply (function : Expr) (args : List Argument)

inductive Argument where
  | positional (value : Expr)
  | keyword (name : String) (value : Expr)

end

/-- What a value is assigned to: a name, or the parts of a sequence. -/
inductive Target where
  | name (name : String)
  | parts (line : Nat) (targets : List Target)

inductive Stmt where
  | text (s : List Char)
  | emit (e : Expr)
  | forEach (target : Target) (items : Expr) (condition : Option Expr) (body otherwise : List Stmt)
  | ifElse (test : Expr) (yes no : List Stmt)
  | set (target : Target) (value : Expr)
  | scope (assignments : List (Target × Expr)) (body : List Stmt)
  | includeOther (name : Expr) (ignoreMissing : Bool)

mutual

/-- The line of the operand of an expression that is read last. -/
def Expr.lastLine : Expr → Nat
  | .literal line _ => line
  | .var line _ => line
  | .list line items => (lastLineOf items).getD line
  | .map line parts => (lastLineOf parts).getD line
  | .attr object _ => object.lastLine
  | .item _ key => key.lastLine
  | .slice _ _ _ step => step.lastLine
  | .negate _ operand => operand.lastLine
  | .not operand => operand.lastLine
  | .and _ right => right.lastLine
  | .or _ right => right.lastLine
  | .binary _ _ right => right.lastLine
  | .ifElse _ _ no => no.lastLine
  | .filter _ object _ args => (lastLineOfArgs args).getD object.lastLine
  | .test _ object _ args => (lastLineOfArgs args).getD object.lastLine
  | .call line _ args => (lastLineOfArgs args).getD line
  | .method object _ args => (lastLineOfArgs args).getD object.lastLine
  | .apply function args => (lastLineOfArgs args).getD function.lastLine

def lastLineOf : List Expr → Option Nat
  | [] => none
  | e :: es => some ((lastLineOf es).getD e.lastLine)

def lastLineOfArgs : List Argument → Option Nat
  | [] => none
  | .positional e :: args => some ((lastLineOfArgs args).getD e.lastLine)
  | .keyword _ e :: args => some ((lastLineOfArgs args).getD e.lastLine)

end

end Scaffold.Template

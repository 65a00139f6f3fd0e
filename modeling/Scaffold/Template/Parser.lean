import Scaffold.Template.Program
import Scaffold.Template.Token
/-!
# Parsing templates

Reading the tokens of a template as statements. A fault is reported at the line of the last token
used: the offending one, or the last one of the text where something is left open.

The statements are those for output, loops, conditionals, assignments, scopes and inclusion. The
engine that templates are written for reads more of them: `macro`, `call`, `block`, `extends`,
`import`, `from`, `filter`, `autoescape`, `do`, and `set` around a body. They are left out here, so a
template with one of them is refused as malformed. What is stated about commands does not rest on
this: a host brings its own way of rendering.
-/

namespace Scaffold.Template

structure Fault where
  cause : Cause
  line : Nat
  deriving DecidableEq, Repr

namespace Parser

/-- The tokens not used yet, the line of the last one used, and how deeply expressions and
statements are nested. -/
structure Cursor where
  rest : List Lexeme
  last : Nat
  depth : Nat

def maxDepth : Nat := 150

abbrev Reader := StateT Cursor (Except Fault)

def fail {α : Type} : Reader α :=
  fun cursor => .error ⟨.badForm, cursor.last⟩

def next : Reader (Option Token) := fun cursor =>
  match cursor.rest with
  | [] => .ok (none, cursor)
  | ⟨.fault cause, line⟩ :: _ => .error ⟨cause, line⟩
  | ⟨token, line⟩ :: rest => .ok (some token, { cursor with rest := rest, last := line })

def peek : Reader (Option Token) := fun cursor =>
  match cursor.rest with
  | [] => .ok (none, cursor)
  | ⟨.fault cause, line⟩ :: _ => .error ⟨cause, line⟩
  | ⟨token, _⟩ :: _ => .ok (some token, cursor)

def lastLine : Reader Nat := fun cursor => .ok (cursor.last, cursor)

def expect (token : Token) : Reader Unit := do
  if (← next) = some token then return () else fail

def skip (token : Token) : Reader Bool := do
  if (← peek) = some token then
    let _ ← next
    return true
  else return false

def sees (tokens : List Token) : Reader Bool := do
  match ← peek with
  | some token => return tokens.contains token
  | none => return false

def name : Reader String := do
  match ← next with
  | some (.name s) => return s
  | _ => fail

def nested {α : Type} (reader : Reader α) : Reader α := do
  modify fun cursor => { cursor with depth := cursor.depth + 1 }
  if maxDepth < (← get).depth then fail
  let a ← reader
  modify fun cursor => { cursor with depth := cursor.depth - 1 }
  return a

def reservedNames : List String :=
  ["true", "True", "false", "False", "none", "None", "loop", "self"]

def assignableName : Reader String := do
  let s ← name
  if reservedNames.contains s then fail
  return s

/-- The levels of operators, the loosest first. -/
inductive Level where
  | or | and | not | comparison | sum | concat | product | power | unary
  deriving DecidableEq, Repr

def Level.operand : Level → Level
  | or => and
  | and => not
  | not => comparison
  | comparison => sum
  | sum => concat
  | concat => product
  | product => power
  | power => unary
  | unary => unary

/-- How an operator's token combines its operands at a level. -/
def Level.combine? : Level → Token → Option (Expr → Expr → Expr)
  | or, .name "or" => some .or
  | and, .name "and" => some .and
  | comparison, .mark .equal => some (.binary .equal)
  | comparison, .mark .notEqual => some (.binary .notEqual)
  | comparison, .mark .less => some (.binary .less)
  | comparison, .mark .lessEqual => some (.binary .lessEqual)
  | comparison, .mark .greater => some (.binary .greater)
  | comparison, .mark .greaterEqual => some (.binary .greaterEqual)
  | comparison, .name "in" => some (.binary .isIn)
  | sum, .mark .plus => some (.binary .add)
  | sum, .mark .minus => some (.binary .subtract)
  | concat, .mark .tilde => some (.binary .concat)
  | product, .mark .star => some (.binary .multiply)
  | product, .mark .slash => some (.binary .divide)
  | product, .mark .slashSlash => some (.binary .floorDivide)
  | product, .mark .percent => some (.binary .remainder)
  | power, .mark .starStar => some (.binary .power)
  | _, _ => none

/-- Whether a token can begin the argument of a test that is written without parentheses. -/
def beginsTestArgument : Token → Bool
  | .name s => !(["and", "or", "else", "is", "if", "not", "in", "recursive"].contains s)
  | .str _ | .int _ => true
  | .mark m => m = .minus || m = .bracketOpen || m = .braceOpen
  | _ => false

def callOf (line : Nat) (function : Expr) (args : List Argument) : Expr :=
  match function with
  | .var _ name => .call line name args
  | .attr object name => .method object name args
  | function => .apply function args

mutual

/-- Reads an expression; the fuel bounds the depth of the recursion. -/
def expression : Nat → Reader Expr
  | 0 => fail
  | fuel + 1 => nested (conditional fuel)

def conditional : Nat → Reader Expr
  | 0 => fail
  | fuel + 1 => do conditionalRest fuel (← operators fuel .or)

def conditionalRest : Nat → Expr → Reader Expr
  | 0, _ => fail
  | fuel + 1, yes => do
    if ← skip (.name "if") then
      let test ← operators fuel .or
      let no ←
        if ← skip (.name "else") then conditional fuel
        else pure (.literal yes.lastLine (.undefined true))
      conditionalRest fuel (.ifElse test yes no)
    else return yes

def operators : Nat → Level → Reader Expr
  | 0, _ => fail
  | fuel + 1, .not => do
    if ← skip (.name "not") then return .not (← operators fuel .not)
    else operators fuel .comparison
  | fuel + 1, .unary => do filters fuel (← trailers fuel (← signed fuel))
  | fuel + 1, level => do operatorsRest fuel level (← operators fuel level.operand)

def operatorsRest : Nat → Level → Expr → Reader Expr
  | 0, _, _ => fail
  | fuel + 1, level, left => do
    match ← peek with
    | none => return left
    | some token =>
      if level = .comparison ∧ token = .name "not" then
        let _ ← next
        expect (.name "in")
        let right ← operators fuel level.operand
        operatorsRest fuel level (.not (.binary .isIn left right))
      else
        match level.combine? token with
        | none => return left
        | some combine =>
          let _ ← next
          let right ← operators fuel level.operand
          operatorsRest fuel level (combine left right)

/-- Reads a primary expression with the signs before it; what follows it belongs to the signed
expression. -/
def signed : Nat → Reader Expr
  | 0 => fail
  | fuel + 1 => do
    if ← skip (.mark .minus) then
      let line ← lastLine
      return .negate line (← signed fuel)
    else primary fuel

def primary : Nat → Reader Expr
  | 0 => fail
  | fuel + 1 => do
    let token ← next
    let line ← lastLine
    match token with
    | some (.name "true") | some (.name "True") => return .literal line (.bool true)
    | some (.name "false") | some (.name "False") => return .literal line (.bool false)
    | some (.name "none") | some (.name "None") => return .literal line .none
    | some (.name s) => return .var line s
    | some (.str s) => return .literal line (.str s)
    | some (.int n) => return .literal line (.int n)
    | some (.mark .parenOpen) =>
      if ← skip (.mark .parenClose) then return .list line []
      let first ← expression fuel
      if ← sees [.mark .comma] then return .list line (← items fuel .parenClose [first])
      expect (.mark .parenClose)
      return first
    | some (.mark .bracketOpen) => return .list line (← items fuel .bracketClose [])
    | some (.mark .braceOpen) => return .map line (← entries fuel [])
    | _ => fail

def items : Nat → Mark → List Expr → Reader (List Expr)
  | 0, _, _ => fail
  | fuel + 1, close, before => do
    if ← skip (.mark close) then return before
    if !before.isEmpty then
      expect (.mark .comma)
      if ← skip (.mark close) then return before
    items fuel close (before ++ [← expression fuel])

def entries : Nat → List Expr → Reader (List Expr)
  | 0, _ => fail
  | fuel + 1, before => do
    if ← skip (.mark .braceClose) then return before
    if !before.isEmpty then
      expect (.mark .comma)
      if ← skip (.mark .braceClose) then return before
    let key ← expression fuel
    expect (.mark .colon)
    entries fuel (before ++ [key, ← expression fuel])

def trailers : Nat → Expr → Reader Expr
  | 0, _ => fail
  | fuel + 1, e => do
    match ← peek with
    | some (.mark .dot) =>
      let _ ← next
      trailers fuel (.attr e (← name))
    | some (.mark .bracketOpen) =>
      let _ ← next
      let start ← if ← sees [.mark .colon] then pure none else some <$> expression fuel
      if ← skip (.mark .colon) then
        let line ← lastLine
        let nothing := Expr.literal line .none
        let stop ←
          if ← sees [.mark .bracketClose, .mark .colon] then pure nothing else expression fuel
        let step ←
          if ← skip (.mark .colon) then
            if ← sees [.mark .bracketClose] then pure nothing else expression fuel
          else pure nothing
        expect (.mark .bracketClose)
        trailers fuel (.slice e (start.getD nothing) stop step)
      else
        expect (.mark .bracketClose)
        match start with
        | some key => trailers fuel (.item e key)
        | none => fail
    | some (.mark .parenOpen) =>
      let args ← arguments fuel
      trailers fuel (callOf e.lastLine e args)
    | _ => return e

def arguments : Nat → Reader (List Argument)
  | 0 => fail
  | fuel + 1 => do
    expect (.mark .parenOpen)
    argumentsRest fuel []

def argumentsRest : Nat → List Argument → Reader (List Argument)
  | 0, _ => fail
  | fuel + 1, before => do
    if ← skip (.mark .parenClose) then return before
    if !before.isEmpty then
      expect (.mark .comma)
      if ← skip (.mark .parenClose) then return before
    let value ← expression fuel
    let keyword? ←
      match value with
      | .var _ key => if ← skip (.mark .assign) then pure (some key) else pure none
      | _ => pure none
    match keyword? with
    | some key => argumentsRest fuel (before ++ [.keyword key (← expression fuel)])
    | none =>
      let afterKeyword := before.any fun
        | .keyword .. => true
        | .positional _ => false
      if afterKeyword then fail
      argumentsRest fuel (before ++ [.positional value])

def filters : Nat → Expr → Reader Expr
  | 0, _ => fail
  | fuel + 1, e => do
    match ← peek with
    | some (.mark .pipe) =>
      let _ ← next
      let filterName ← name
      let line ← lastLine
      let args ← if ← sees [.mark .parenOpen] then arguments fuel else pure []
      filters fuel (.filter line e filterName args)
    | some (.name "is") =>
      let _ ← next
      let negated ← skip (.name "not")
      let testName ← name
      let line ← lastLine
      let args ←
        match ← peek with
        | some (.mark .parenOpen) => arguments fuel
        | some token =>
          if beginsTestArgument token then pure [.positional (← trailers fuel (← signed fuel))]
          else pure []
        | none => pure []
      let test := Expr.test line e testName args
      filters fuel (if negated then .not test else test)
    | _ => return e

end

def target : Nat → List Target → Reader Target
  | 0, _ => fail
  | fuel + 1, before => do
    if !before.isEmpty then expect (.mark .comma)
    let ended := !before.isEmpty &&
      (← sees [.mark .parenClose, .exprEnd, .stmtEnd, .name "in", .mark .assign])
    if ended then return .parts (← lastLine) before
    let one ←
      if ← skip (.mark .parenOpen) then do
        let inner ← target fuel []
        expect (.mark .parenClose)
        pure inner
      else .name <$> assignableName
    if ← sees [.mark .comma] then target fuel (before ++ [one])
    else if before.isEmpty then return one
    else return .parts (← lastLine) (before ++ [one])

def assignments : Nat → Nat → List (Target × Expr) → Reader (List (Target × Expr))
  | 0, _, _ => fail
  | steps + 1, fuel, before => do
    if ← sees [.stmtEnd] then return before
    if !before.isEmpty then expect (.mark .comma)
    let assignee ←
      if ← skip (.mark .parenOpen) then do
        let inner ← target fuel []
        expect (.mark .parenClose)
        pure inner
      else .name <$> assignableName
    expect (.mark .assign)
    assignments steps fuel (before ++ [(assignee, ← expression fuel)])

mutual

/-- Reads statements up to one that begins with a word of `stop`, which is left, or up to the end
of the text. -/
def statements : Nat → List String → Reader (List Stmt)
  | 0, _ => fail
  | fuel + 1, stop => do
    match ← next with
    | none => return []
    | some (.text s) => return .text s :: (← statements fuel stop)
    | some .exprStart =>
      let e ← expression fuel
      expect .exprEnd
      return .emit e :: (← statements fuel stop)
    | some .stmtStart =>
      match ← peek with
      | none => fail
      | some token =>
        if stop.any fun word => token = .name word then return []
        let s ← nested (statement fuel)
        expect .stmtEnd
        return s :: (← statements fuel stop)
    | some _ => fail

/-- Reads a statement after its opening delimiter, up to its closing one. -/
def statement : Nat → Reader Stmt
  | 0 => fail
  | fuel + 1 => do
    match ← next with
    | some (.name "for") =>
      let assignee ← target fuel []
      expect (.name "in")
      let items ← operators fuel .or
      let condition ← if ← skip (.name "if") then some <$> expression fuel else pure none
      let _ ← skip (.name "recursive")
      expect .stmtEnd
      let body ← statements fuel ["endfor", "else"]
      let otherwise ←
        if ← skip (.name "else") then do
          expect .stmtEnd
          statements fuel ["endfor"]
        else pure []
      let _ ← next
      return .forEach assignee items condition body otherwise
    | some (.name "if") => branch fuel
    | some (.name "set") =>
      let assignee ← target fuel []
      expect (.mark .assign)
      return .set assignee (← expression fuel)
    | some (.name "with") =>
      let assigned ← assignments fuel fuel []
      expect .stmtEnd
      let body ← statements fuel ["endwith"]
      let _ ← next
      return .scope assigned body
    | some (.name "include") =>
      let other ← expression fuel
      context
      let ignore ← skip (.name "ignore")
      if ignore then
        expect (.name "missing")
        context
      return .includeOther other ignore
    -- here the statements that are left out end, and those that are none
    | _ => fail

def branch : Nat → Reader Stmt
  | 0 => fail
  | fuel + 1 => do
    let test ← expression fuel
    expect .stmtEnd
    let yes ← statements fuel ["endif", "else", "elif"]
    match ← next with
    | some (.name "else") =>
      expect .stmtEnd
      let no ← statements fuel ["endif"]
      let _ ← next
      return .ifElse test yes no
    | some (.name "elif") => return .ifElse test yes [← branch fuel]
    | _ => return .ifElse test yes []

/-- Uses up the words that say whether an included template sees the names of this one. -/
def context : Reader Unit := do
  if ← sees [.name "with", .name "without"] then
    let _ ← next
    expect (.name "context")

end

end Parser

def parse (source : List Char) : Except Fault (List Stmt) :=
  let tokens := lexemes source
  match Parser.statements (16 * (tokens.length + 4)) [] ⟨tokens, 1, 0⟩ with
  | .ok (program, _) => .ok program
  | .error fault => .error fault

end Scaffold.Template

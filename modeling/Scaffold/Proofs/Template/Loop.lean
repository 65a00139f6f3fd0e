import Scaffold.Proofs.Template.Rendering
/-!
# Loops over the attributes

The body of the loop sees the attribute as `a`; what the loop shows is the row of each attribute, in
the order of the set.
-/

namespace Scaffold.Template

open Lexer Text

def loopTag : String := "\x7b%- for a in attrs %\x7d"

def endTag : String := "\x7b%- endfor %\x7d"

def optionTag : String := "\x7b\x7b- option(a) -\x7d\x7d"

def attributeTag (field : String) : String :=
  "\x7b\x7b a." ++ field ++ " \x7d\x7d"

section Tags

variable {control : Control} {text : String} (htext : isPlain text.toList = true)
  (hlast : text.toList.getLast? ≠ some '\x7b')

include htext hlast

theorem reads_loopTag :
    Reads (.text control) (text ++ loopTag).toList
      (textTokens (shown control .remove text.toList) ++
        [.stmtStart, .name "for", .name "a", .name "in", .name "attrs", .stmtEnd])
      (.text .keep) := by
  have hinner : Reads .stmt " for a in attrs %\x7d".toList
      [.name "for", .name "a", .name "in", .name "attrs", .stmtEnd] (.text .keep) := by
    simp only [String.reduceToList]
    exact ⟨5, by decide, fun _ _ _ => ⟨_, rfl⟩⟩
  rw [String.toList_append]
  refine Reads.delimited htext hlast (fun rest => ?_) (by decide) hinner
  simp only [loopTag, String.reduceToList]
  exact ⟨rfl, rfl, rfl⟩

theorem reads_endTag :
    Reads (.text control) (text ++ endTag).toList
      (textTokens (shown control .remove text.toList) ++ [.stmtStart, .name "endfor", .stmtEnd])
      (.text .keep) := by
  have hinner : Reads .stmt " endfor %\x7d".toList [.name "endfor", .stmtEnd] (.text .keep) := by
    simp only [String.reduceToList]
    exact ⟨2, by decide, fun _ _ _ => ⟨_, rfl⟩⟩
  rw [String.toList_append]
  refine Reads.delimited htext hlast (fun rest => ?_) (by decide) hinner
  simp only [endTag, String.reduceToList]
  exact ⟨rfl, rfl, rfl⟩

theorem reads_optionTag :
    Reads (.text control) (text ++ optionTag).toList
      (textTokens (shown control .remove text.toList) ++
        [.exprStart, .name "option", .mark .parenOpen, .name "a", .mark .parenClose, .exprEnd])
      (.text .remove) := by
  have hinner : Reads .expr " option(a) -\x7d\x7d".toList
      [.name "option", .mark .parenOpen, .name "a", .mark .parenClose, .exprEnd]
      (.text .remove) := by
    simp only [String.reduceToList]
    exact ⟨5, by decide, fun _ _ _ => ⟨_, rfl⟩⟩
  rw [String.toList_append]
  refine Reads.delimited htext hlast (fun rest => ?_) (by decide) hinner
  simp only [optionTag, String.reduceToList]
  exact ⟨rfl, rfl, rfl⟩

end Tags

def attributeTokens (text field : String) : List Token :=
  [.text text.toList, .exprStart, .name "a", .mark .dot, .name field, .exprEnd]

theorem reads_attributeTag {text field : String} (htext : isPlain text.toList = true)
    (hlast : text.toList.getLast? ≠ some '\x7b') (hne : text.toList.isEmpty = false)
    (hfield : isName field.toList = true) :
    Reads (.text .keep) (text ++ attributeTag field).toList (attributeTokens text field)
      (.text .keep) := by
  have hpath := @reads_text_path .keep text.toList "a" field htext hlast (by decide) hfield
  have hshown : textTokens (shown .keep .keep text.toList) = [.text text.toList] :=
    if_neg (by rw [show shown .keep .keep text.toList = text.toList from rfl, hne]; decide)
  rw [hshown] at hpath
  simp only [attributeTag, String.toList_append, String.reduceToList, List.cons_append,
    List.nil_append] at hpath ⊢
  exact hpath

/-- A loop whose body shows the row of each item, whatever the frame it starts in. -/
theorem runLoop_eq_ok {α : Type} {value : α → Value} {row : α → String} {good : Frame → Prop}
    {step : Value → Frame → Except Fault (String × Frame)} (length : Option Nat) (depth : Nat)
    (hstep : ∀ a state frame, good frame →
      ∃ next, step (value a) { frame with loop? := some state } = .ok (row a, next) ∧ good next)
    (items : List α) (index : Nat) (previous : Value) (frame : Frame) (hframe : good frame) :
    runLoop step length depth index previous frame (items.map value) =
      .ok (String.join (items.map row)) := by
  -- each item starts in the frame the last one left; that it is good is all the induction carries
  induction items generalizing index previous frame with
  | nil => rfl
  | cons a items ih =>
      obtain ⟨next, hnext, hgood⟩ := hstep a
        (.loop index length depth previous ((items.map value).head?.getD .missing)) frame hframe
      have hrest := ih (index + 1) (value a) next hgood
      rw [List.map_cons, runLoop, hnext]
      change (runLoop step length depth (index + 1) (value a) next (items.map value) >>=
        fun out => pure (row a ++ out)) = _
      rw [hrest, List.map_cons, String.join_cons]
      rfl

/-- The scope of a loop body: the attribute, and the function that gives its column option. -/
structure SeesAttribute (scope : Scope) (a : Attribute) : Prop where
  item : scope.lookup "a" = a.toValue
  function : scope.lookup "option" = .builtin .option

theorem seesAttribute_push (context : Context) (a : Attribute) (frame : Frame)
    (hframe : frame.vars.lookup "option" = none) :
    SeesAttribute ((initial context.names).push (frame.set "a" a.toValue)) a where
  item := rfl
  function := by
    have hvars : (frame.set "a" a.toValue).vars.lookup "option" = none := hframe
    have hlookup : (frame.set "a" a.toValue).lookup? "option" = none := by
      rw [Frame.lookup?, hvars]
      rfl
    rw [Scope.lookup, Scope.push, List.findSome?_cons, hlookup]
    rfl

/-- The body of the loop over the attributes, run for one item in the frame the last one left. -/
def loopStep (context : Context) (body : List Stmt) (v : Value) (frame : Frame) :
    Except Fault (String × Frame) := do
  let frame ← assign frame (.name "a") v
  let (out, after) ← runAll ((initial context.names).push frame) body
  return (out, after.top)

theorem runStmt_attributeLoop {context : Context} {line : Nat} {body : List Stmt}
    {row : Attribute → String}
    (hbody : ∀ a scope, SeesAttribute scope a → runAll scope body = .ok (row a, scope)) :
    runStmt (initial context.names) (.forEach (.name "a") (.var line "attrs") none body []) =
      .ok (String.join (context.attributes.toList.map row), initial context.names) := by
  have hstep (a : Attribute) (state : Value) (frame : Frame)
      (hframe : frame.vars.lookup "option" = none) :
      ∃ next, loopStep context body a.toValue { frame with loop? := some state } =
        .ok (row a, next) ∧ next.vars.lookup "option" = none := by
    let inside : Frame := { frame with loop? := some state }
    refine ⟨inside.set "a" a.toValue, ?_, hframe⟩
    change (runAll ((initial context.names).push (inside.set "a" a.toValue)) body >>=
      fun result => pure (result.1, result.2.top)) = _
    rw [hbody a _ (seesAttribute_push context a inside hframe)]
    rfl
  have hloop := runLoop_eq_ok (some context.attributes.toList.length)
    (initial context.names).loopDepth hstep context.attributes.toList 0 .missing ⟨[], none⟩ rfl
  obtain ⟨project, ⟨attributes⟩⟩ := context
  cases attributes with
  | nil => rfl
  | cons first others =>
      rw [← List.length_map Attribute.toValue] at hloop
      exact congrArg (· >>= fun out =>
        pure (out, initial (Context.names ⟨project, ⟨first :: others⟩⟩))) hloop

theorem runStmt_emit_attribute {scope : Scope} {a : Attribute} (h : SeesAttribute scope a)
    (line : Nat) {field value : String} (hfield : a.toValue.attr field = .ok (.str value)) :
    runStmt scope (.emit (.attr (.var line "a") field)) = .ok (value, scope) := by
  rw [runStmt, evalExpr, evalExpr, h.item]
  change (at? line (a.toValue.attr field) >>= fun v => do return (← at? line v.text?, scope)) = _
  rw [hfield]
  rfl

theorem runStmt_emit_option {scope : Scope} {a : Attribute} (h : SeesAttribute scope a)
    (line at_ : Nat) :
    runStmt scope (.emit (.call line "option" [.positional (.var at_ "a")])) =
      .ok (TypeTag.columnOption a.typeTag, scope) := by
  rw [runStmt, evalExpr, h.function]
  simp only [evalArgs, evalExpr, h.item]
  rfl

theorem shown_remove_newline {cs : List Char} {c : Char} (hlast : cs.getLast? = some c)
    (hc : isBlank c = false) : shown .keep .remove (cs ++ ['\n']) = cs := by
  have hreverse : (cs.reverse).dropWhile isBlank = cs.reverse := by
    rw [← List.head?_reverse] at hlast
    cases hcs : cs.reverse with
    | nil => rfl
    | cons d ds =>
        rw [hcs] at hlast
        obtain rfl := Option.some.inj hlast
        rw [List.dropWhile_cons, hc]
        rfl
  change ((cs ++ ['\n']).reverse.dropWhile isBlank).reverse = cs
  rw [List.reverse_append, List.reverse_singleton, List.singleton_append]
  change ((cs.reverse).dropWhile isBlank).reverse = cs
  rw [hreverse, List.reverse_reverse]

def loopTokens (front : List Char) (body : List Token) (back : List Char) : List Token :=
  [.text front, .stmtStart, .name "for", .name "a", .name "in", .name "attrs", .stmtEnd] ++ body ++
    [.stmtStart, .name "endfor", .stmtEnd, .text back]

def loopProgram (front : List Char) (items : Nat) (body : List Stmt) (back : List Char) :
    List Stmt :=
  [.text front, .forEach (.name "a") (.var items "attrs") none body [], .text back]

theorem runAll_loopProgram {context : Context} {items : Nat} {body : List Stmt}
    {row : Attribute → String} (front back : String)
    (hbody : ∀ a scope, SeesAttribute scope a → runAll scope body = .ok (row a, scope)) :
    runAll (initial context.names) (loopProgram front.toList items body back.toList) =
      .ok (front ++ String.join (context.attributes.toList.map row) ++ back,
        initial context.names) := by
  rw [loopProgram, runAll_cons (runStmt_text _ front)
    (runAll_cons (runStmt_attributeLoop hbody) (runAll_cons (runStmt_text _ back) rfl)),
    String.append_empty, String.append_assoc]

/-- A template with a loop over the attributes shows the rows of its body in the place of the
loop. -/
theorem render_loop {context : Context} {front body back : String} {tokens : List Token}
    {row : Attribute → String} (hfront : isPlain front.toList = true)
    {last : Char} (hlast : front.toList.getLast? = some last) (hblank : isBlank last = false)
    (hback : isPlain back.toList = true)
    (hbody : Reads (.text .keep) (body ++ endTag).toList
      (tokens ++ [.stmtStart, .name "endfor", .stmtEnd]) (.text .keep))
    (hparse : ∀ line front back, ∃ items stmts cursor,
      Parser.statements (16 * ((loopTokens front tokens back).length + 4)) []
          ⟨numbered line (loopTokens front tokens back), 1, 0⟩ =
        .ok (loopProgram front items stmts back, cursor) ∧
      ∀ a scope, SeesAttribute scope a → runAll scope stmts = .ok (row a, scope)) :
    render (front ++ "\n" ++ loopTag ++ (body ++ endTag) ++ ("\n" ++ back)) context.names =
      .ok (front ++ String.join (context.attributes.toList.map row) ++ ("\n" ++ back)) := by
  have hnewline : (front ++ "\n").toList = front.toList ++ ['\n'] := String.toList_append ..
  have hopening := @reads_loopTag .keep (front ++ "\n")
    (by rw [hnewline]; exact isPlain_append_newline hfront rfl) (by simp [hnewline])
  rw [hnewline, shown_remove_newline hlast hblank] at hopening
  have hbackPlain : isPlain ("\n" ++ back).toList = true := by
    rw [String.toList_append]
    exact @isPlain_append_newline [] _ rfl hback
  have hfrontText : textTokens front.toList = [.text front.toList] := by
    refine if_neg ?_
    rw [List.isEmpty_iff]
    intro hnil
    rw [hnil] at hlast
    cases hlast
  have hbackText : textTokens (shown .keep .keep ("\n" ++ back).toList) =
      [.text ("\n" ++ back).toList] := by
    rw [String.toList_append]
    rfl
  have htokens := tokens_lexemes (hopening.append_toList hbody) hbackPlain
  rw [hfrontText, hbackText, ← String.toList_append] at htokens
  have hshape : _ = loopTokens front.toList tokens ("\n" ++ back).toList :=
    htokens.trans (by simp only [loopTokens, List.append_assoc, List.cons_append, List.nil_append])
  refine render_of_tokens hshape fun line => ?_
  obtain ⟨items, stmts, cursor, hprogram, hrow⟩ :=
    hparse line front.toList ("\n" ++ back).toList
  exact ⟨_, cursor, initial context.names, hprogram, runAll_loopProgram front _ hrow⟩

end Scaffold.Template

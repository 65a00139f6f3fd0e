import Scaffold.Bundled.Tree
import Scaffold.Proofs.Template.Loop
/-!
# Rendered templates

What the bundled templates render to. Pages stay as they are, actions get the module path of the
project in one line, and the model and the migration get one line for each attribute.
-/

namespace Scaffold.Bundled

open Template Lexer Text

theorem textOf_cons (line : String) (lines : List String) :
    textOf (line :: lines) = line ++ "\n" ++ textOf lines := by
  rw [textOf, List.map_cons, String.join_cons]
  rfl

theorem textOf_append (lines others : List String) :
    textOf (lines ++ others) = textOf lines ++ textOf others := by
  rw [textOf, List.map_append, String.join_append]
  rfl

def PlainLine (line : String) : Prop :=
  isPlain line.toList = true

theorem plainLine_ofList {cs : List Char} (h : isPlain cs = true) :
    PlainLine (String.ofList cs) := by
  rw [PlainLine, String.toList_ofList, h]

theorem isPlain_textOf_append {lines : List String} {cs : List Char}
    (hlines : ∀ line ∈ lines, PlainLine line) (hcs : isPlain cs = true) :
    isPlain ((textOf lines).toList ++ cs) = true := by
  induction lines with
  | nil => exact hcs
  | cons line lines ih =>
      obtain ⟨hline, hlines⟩ := List.forall_mem_cons.mp hlines
      have hnewline : "\n".toList = ['\n'] := rfl
      rw [textOf_cons, String.toList_append, String.toList_append, hnewline, List.append_assoc,
        List.append_assoc]
      exact isPlain_append_newline hline (ih hlines)

theorem isPlain_textOf {lines : List String} (h : ∀ line ∈ lines, PlainLine line) :
    isPlain (textOf lines).toList = true := by
  have hplain := @isPlain_textOf_append lines [] h rfl
  rwa [List.append_nil] at hplain

theorem textOf_cons_eq_join (line : String) (rows : List String) :
    textOf (line :: rows) = line ++ String.join (rows.map ("\n" ++ ·)) ++ "\n" := by
  induction rows generalizing line with
  | nil => simp [textOf, String.join]
  | cons row rows ih =>
      rw [textOf_cons, ih, List.map_cons, String.join_cons]
      simp only [String.append_assoc]

def importLine (module : String) : String :=
  "\t\"" ++ module ++ "/models\""

def fieldLine (name type column : String) : String :=
  "\t" ++ name ++ " " ++ type ++ " `json:\"" ++ column ++ "\" db:\"" ++ column ++ "\"`"

def columnLine (name type option : String) : String :=
  "\tt.Column(\"" ++ name ++ "\", \"" ++ type ++ "\", \x7b" ++ option ++ "\x7d)"

def fieldRow (a : Attribute) : String :=
  fieldLine a.displayName a.fieldType a.normalized

def columnRow (a : Attribute) : String :=
  columnLine a.normalized a.columnType (TypeTag.columnOption a.typeTag)

theorem render_page {lines : List String} (names : List (String × Value))
    (h : ∀ line ∈ lines, PlainLine line) :
    render (textOf lines) names = .ok (textOf lines) :=
  render_of_isPlain names (isPlain_textOf h)

theorem textOf_importLine (head tail : List String) (module : String) :
    textOf (head ++ importLine module :: tail) =
      textOf head ++ "\t\"" ++ module ++ ("/models\"\n" ++ textOf tail) := by
  rw [textOf_append, textOf_cons, importLine]
  simp only [String.append_assoc]
  rfl

theorem render_action {head tail : List String} (context : Context)
    (hhead : ∀ line ∈ head, PlainLine line) (htail : ∀ line ∈ tail, PlainLine line) :
    render (textOf (head ++ importLine modulePathTag :: tail)) context.names =
      .ok (textOf (head ++ importLine context.project.modulePath :: tail)) := by
  rw [textOf_importLine, textOf_importLine]
  refine render_modulePath context ?_ ?_ ?_
  · rw [String.toList_append]
    exact isPlain_textOf_append hhead rfl
  · simp
  · rw [String.toList_append]
    exact isPlain_append (by decide) (isPlain_textOf htail) (by decide)

def fieldTokens : List Token :=
  attributeTokens "\n\t" "display_name" ++ attributeTokens " " "go_type" ++
    attributeTokens " `json:\"" "normalized" ++ attributeTokens "\" db:\"" "normalized" ++
    [.text "\"`".toList]

theorem reads_fieldLine :
    Reads (.text .keep)
      ("\n" ++ fieldLine (attributeTag "display_name") (attributeTag "go_type")
        (attributeTag "normalized") ++ "\n" ++ endTag).toList
      (fieldTokens ++ [.stmtStart, .name "endfor", .stmtEnd]) (.text .keep) := by
  have hname := @reads_attributeTag "\n\t" "display_name"
    (by decide) (by decide) (by decide) (by decide)
  have htype := @reads_attributeTag " " "go_type"
    (by decide) (by decide) (by decide) (by decide)
  have hkey := @reads_attributeTag " `json:\"" "normalized"
    (by decide) (by decide) (by decide) (by decide)
  have hcolumn := @reads_attributeTag "\" db:\"" "normalized"
    (by decide) (by decide) (by decide) (by decide)
  have hclose := @reads_endTag .keep "\"`\n" (by decide) (by decide)
  have hend : textTokens (shown .keep .remove "\"`\n".toList) = [.text "\"`".toList] := by
    decide
  rw [hend] at hclose
  have hline := (((hname.append_toList htype).append_toList hkey).append_toList
    hcolumn).append_toList hclose
  have hsource : "\n" ++ fieldLine (attributeTag "display_name") (attributeTag "go_type")
      (attributeTag "normalized") ++ "\n" ++ endTag =
      "\n\t" ++ attributeTag "display_name" ++ (" " ++ attributeTag "go_type") ++
        (" `json:\"" ++ attributeTag "normalized") ++ ("\" db:\"" ++ attributeTag "normalized") ++
        ("\"`\n" ++ endTag) := by
    unfold fieldLine
    simp only [String.append_assoc]
    rfl
  rw [hsource]
  exact hline

def columnTokens : List Token :=
  attributeTokens "\n\tt.Column(\"" "normalized" ++ attributeTokens "\", \"" "column_type" ++
    [.text "\", \x7b".toList, .exprStart, .name "option", .mark .parenOpen, .name "a",
      .mark .parenClose, .exprEnd, .text "\x7d)".toList]

theorem reads_columnLine :
    Reads (.text .keep)
      ("\n" ++ columnLine (attributeTag "normalized") (attributeTag "column_type")
        (" " ++ optionTag ++ " ") ++ "\n" ++ endTag).toList
      (columnTokens ++ [.stmtStart, .name "endfor", .stmtEnd]) (.text .keep) := by
  have hname := @reads_attributeTag "\n\tt.Column(\"" "normalized"
    (by decide) (by decide) (by decide) (by decide)
  have htype := @reads_attributeTag "\", \"" "column_type"
    (by decide) (by decide) (by decide) (by decide)
  have hoption := @reads_optionTag .keep "\", \x7b " (by decide) (by decide)
  have hclose := @reads_endTag .remove " \x7d)\n" (by decide) (by decide)
  -- the call takes the blank on its left, and with the closing tag the blanks on its right
  have hbefore : textTokens (shown .keep .remove "\", \x7b ".toList) =
      [.text "\", \x7b".toList] := by
    decide
  have hafter : textTokens (shown .remove .remove " \x7d)\n".toList) = [.text "\x7d)".toList] := by
    decide
  rw [hbefore] at hoption
  rw [hafter] at hclose
  have hline := ((hname.append_toList htype).append_toList hoption).append_toList hclose
  have hsource : "\n" ++ columnLine (attributeTag "normalized") (attributeTag "column_type")
      (" " ++ optionTag ++ " ") ++ "\n" ++ endTag =
      "\n\tt.Column(\"" ++ attributeTag "normalized" ++ ("\", \"" ++ attributeTag "column_type") ++
        ("\", \x7b " ++ optionTag) ++ (" \x7d)\n" ++ endTag) := by
    unfold columnLine
    simp only [String.append_assoc]
    rfl
  rw [hsource]
  exact hline

/-- A loop with one line, and the line end before it, which its opening tag removes. -/
def loopOf (line : String) : String :=
  "\n" ++ loopTag ++ ("\n" ++ line ++ "\n" ++ endTag)

theorem textOf_loop (head tail : List String) (last line : String) :
    textOf (head ++ [last, loopTag, line, endTag] ++ tail) =
      textOf head ++ last ++ loopOf line ++ ("\n" ++ textOf tail) := by
  rw [textOf_append, textOf_append, textOf_cons, textOf_cons, textOf_cons, textOf_cons, loopOf]
  simp only [String.append_assoc]
  rfl

/-- Rows for attributes, each after the end of the line before it. -/
def rowsOf (row : Attribute → String) (attributes : AttributeSet) : String :=
  String.join (attributes.toList.map ("\n" ++ row ·))

theorem textOf_rows (head tail : List String) (last : String) (row : Attribute → String)
    (attributes : AttributeSet) :
    textOf (head ++ last :: attributes.toList.map row ++ tail) =
      textOf head ++ last ++ rowsOf row attributes ++ ("\n" ++ textOf tail) := by
  rw [textOf_append, textOf_append, textOf_cons_eq_join, List.map_map, rowsOf]
  simp only [String.append_assoc]
  rfl

section Rows

variable {head tail : List String} {last : String} {c : Char} (context : Context)
  (hhead : ∀ line ∈ head, PlainLine line) (hlast : PlainLine last)
  (hend : last.toList.getLast? = some c) (hblank : isBlank c = false)
  (htail : ∀ line ∈ tail, PlainLine line)

include hhead hlast hend hblank htail

/-- A line inside the tags of the loop gives one line for each attribute. -/
theorem render_rows {line : String} {tokens : List Token} {row : Attribute → String}
    (hline : Reads (.text .keep) ("\n" ++ line ++ "\n" ++ endTag).toList
      (tokens ++ [.stmtStart, .name "endfor", .stmtEnd]) (.text .keep))
    (hparse : ∀ line front back, ∃ items stmts cursor,
      Parser.statements (16 * ((loopTokens front tokens back).length + 4)) []
          ⟨numbered line (loopTokens front tokens back), 1, 0⟩ =
        .ok (loopProgram front items stmts back, cursor) ∧
      ∀ a scope, SeesAttribute scope a → runAll scope stmts = .ok ("\n" ++ row a, scope)) :
    render (textOf (head ++ [last, loopTag, line, endTag] ++ tail)) context.names =
      .ok (textOf (head ++ last :: context.attributes.toList.map row ++ tail)) := by
  have hfront : isPlain (textOf head ++ last).toList = true := by
    rw [String.toList_append]
    exact isPlain_textOf_append hhead hlast
  have hfrontEnd : (textOf head ++ last).toList.getLast? = some c := by
    rw [String.toList_append, List.getLast?_append, hend]
    rfl
  have hloop : textOf head ++ last ++ loopOf line =
      textOf head ++ last ++ "\n" ++ loopTag ++ ("\n" ++ line ++ "\n" ++ endTag) := by
    rw [loopOf]
    simp only [String.append_assoc]
  rw [textOf_loop, textOf_rows, hloop]
  exact render_loop hfront hfrontEnd hblank (isPlain_textOf htail) hline hparse

theorem render_fields :
    render (textOf (head ++ [last, loopTag,
        fieldLine (attributeTag "display_name") (attributeTag "go_type")
          (attributeTag "normalized"), endTag] ++ tail)) context.names =
      .ok (textOf (head ++ last :: context.attributes.toList.map fieldRow ++ tail)) := by
  refine render_rows context hhead hlast hend hblank htail reads_fieldLine fun line front back => ?_
  refine ⟨_, [.text "\n\t".toList, .emit (.attr (.var _ "a") "display_name"),
    .text " ".toList, .emit (.attr (.var _ "a") "go_type"),
    .text " `json:\"".toList, .emit (.attr (.var _ "a") "normalized"),
    .text "\" db:\"".toList, .emit (.attr (.var _ "a") "normalized"),
    .text "\"`".toList], _, rfl, fun a scope h => ?_⟩
  have hname (line : Nat) := @runStmt_emit_attribute _ _ h line "display_name" _ rfl
  have htype (line : Nat) := @runStmt_emit_attribute _ _ h line "go_type" _ rfl
  have hcolumn (line : Nat) := @runStmt_emit_attribute _ _ h line "normalized" _ rfl
  rw [runAll_cons (runStmt_text scope _) (runAll_cons (hname _)
    (runAll_cons (runStmt_text scope _) (runAll_cons (htype _)
    (runAll_cons (runStmt_text scope _) (runAll_cons (hcolumn _)
    (runAll_cons (runStmt_text scope _) (runAll_cons (hcolumn _)
    (runAll_cons (runStmt_text scope _) rfl))))))))]
  unfold fieldRow fieldLine
  simp only [String.append_assoc, String.append_empty]
  rfl

theorem render_columns :
    render (textOf (head ++ [last, loopTag,
        columnLine (attributeTag "normalized") (attributeTag "column_type")
          (" " ++ optionTag ++ " "), endTag] ++ tail)) context.names =
      .ok (textOf (head ++ last :: context.attributes.toList.map columnRow ++ tail)) := by
  refine render_rows context hhead hlast hend hblank htail reads_columnLine
    fun line front back => ?_
  refine ⟨_, [.text "\n\tt.Column(\"".toList, .emit (.attr (.var _ "a") "normalized"),
    .text "\", \"".toList, .emit (.attr (.var _ "a") "column_type"),
    .text "\", \x7b".toList, .emit (.call _ "option" [.positional (.var _ "a")]),
    .text "\x7d)".toList], _, rfl, fun a scope h => ?_⟩
  have hname (line : Nat) := @runStmt_emit_attribute _ _ h line "normalized" _ rfl
  have htype (line : Nat) := @runStmt_emit_attribute _ _ h line "column_type" _ rfl
  rw [runAll_cons (runStmt_text scope _) (runAll_cons (hname _)
    (runAll_cons (runStmt_text scope _) (runAll_cons (htype _)
    (runAll_cons (runStmt_text scope _) (runAll_cons (runStmt_emit_option h _ _)
    (runAll_cons (runStmt_text scope _) rfl))))))]
  unfold columnRow columnLine
  simp only [String.append_assoc, String.append_empty]
  rfl

end Rows

end Scaffold.Bundled

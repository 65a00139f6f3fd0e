import Scaffold.Proofs.Template.Lexing
import Scaffold.Rendering
/-!
# From tokens to output

What a template renders to, from its tokens. The lines of the tokens only matter to failures, so a
program may be given with any lines. A loop over the attributes shows one row for each of them.
-/

namespace Scaffold.Template

open Lexer

def numbered (line : Nat → Nat) (tokens : List Token) : List Lexeme :=
  tokens.zipIdx.map fun (token, index) => ⟨token, line index⟩

theorem exists_eq_numbered (ls : List Lexeme) :
    ∃ line, ls = numbered line (ls.map (·.token)) := by
  refine ⟨fun index => (ls[index]?.map (·.line)).getD 0, ?_⟩
  apply List.ext_getElem?
  intro index
  cases hlexeme : ls[index]? with
  | none => simp [numbered, hlexeme]
  | some lexeme => simp [numbered, hlexeme]

def initial (names : List (String × Value)) : Scope :=
  ⟨⟨[], none⟩, [⟨names, none⟩]⟩

theorem render_of_tokens {source : String} {names : List (String × Value)} {tokens : List Token}
    {out : String} (htokens : (lexemes source.toList).map (·.token) = tokens)
    (hrun : ∀ line, ∃ program cursor scope,
      Parser.statements (16 * (tokens.length + 4)) [] ⟨numbered line tokens, 1, 0⟩ =
        .ok (program, cursor) ∧
      runAll (initial names) program = .ok (out, scope)) :
    render source names = .ok out := by
  obtain ⟨line, hline⟩ := exists_eq_numbered (lexemes source.toList)
  rw [htokens] at hline
  obtain ⟨program, cursor, scope, hparse, hout⟩ := hrun line
  have hlength : (lexemes source.toList).length = tokens.length := by
    rw [← htokens, List.length_map]
  have hprogram : parse source.toList = .ok program := by
    rw [parse, hlength, hline, hparse]
  rw [render, hprogram]
  change (runAll (initial names) program >>= fun result => pure result.1) = _
  rw [hout]
  rfl

def textProgram (cs : List Char) : List Stmt :=
  if cs.isEmpty then [] else [.text cs]

theorem runAll_cons {scope between after : Scope} {s : Stmt} {rest : List Stmt} {out more : String}
    (hfirst : runStmt scope s = .ok (out, between))
    (hrest : runAll between rest = .ok (more, after)) :
    runAll scope (s :: rest) = .ok (out ++ more, after) := by
  rw [runAll, hfirst]
  change (runAll between rest >>= fun result => pure (out ++ result.1, result.2)) = _
  rw [hrest]
  rfl

theorem runStmt_text (scope : Scope) (text : String) :
    runStmt scope (.text text.toList) = .ok (text, scope) := by
  rw [runStmt, String.ofList_toList]

theorem runAll_append {scope between after : Scope} {first second : List Stmt} {out more : String}
    (hfirst : runAll scope first = .ok (out, between))
    (hsecond : runAll between second = .ok (more, after)) :
    runAll scope (first ++ second) = .ok (out ++ more, after) := by
  induction first generalizing scope out with
  | nil =>
      obtain ⟨rfl, rfl⟩ := Prod.mk.inj (Except.ok.inj hfirst)
      rw [List.nil_append, String.empty_append, hsecond]
  | cons s rest ih =>
      rw [runAll] at hfirst
      cases hstmt : runStmt scope s with
      | error fault =>
          rw [hstmt] at hfirst
          cases hfirst
      | ok result =>
          obtain ⟨first, next⟩ := result
          rw [hstmt] at hfirst
          change (runAll next rest >>= fun result => pure (first ++ result.1, result.2)) = _ at hfirst
          cases hothers : runAll next rest with
          | error fault =>
              rw [hothers] at hfirst
              cases hfirst
          | ok result =>
              rw [hothers] at hfirst
              obtain ⟨rfl, rfl⟩ := Prod.mk.inj (Except.ok.inj hfirst)
              rw [List.cons_append, runAll_cons hstmt (ih hothers), String.append_assoc]

theorem runAll_textProgram (scope : Scope) (cs : List Char) :
    runAll scope (textProgram cs) = .ok (String.ofList cs, scope) := by
  cases cs with
  | nil => rfl
  | cons c cs =>
      change Except.ok (String.ofList (c :: cs) ++ "", scope) = _
      rw [String.append_empty]

/-- A text without delimiters renders to itself. -/
theorem render_of_isPlain {source : String} (names : List (String × Value))
    (h : isPlain source.toList = true) : render source names = .ok source := by
  have htokens := tokens_lexemes_of_isPlain h
  have hrun := runAll_textProgram (initial names) source.toList
  rw [String.ofList_toList] at hrun
  refine render_of_tokens htokens fun line => ⟨textProgram source.toList, ?_⟩
  cases htext : source.toList with
  | nil => exact ⟨_, _, rfl, htext ▸ hrun⟩
  | cons c cs => exact ⟨_, _, rfl, htext ▸ hrun⟩

def modulePathTag : String := "\x7b\x7b app.module_path \x7d\x7d"

theorem render_modulePath {before after : String} (context : Context)
    (hbefore : isPlain before.toList = true) (hlast : before.toList.getLast? ≠ some '\x7b')
    (hafter : isPlain after.toList = true) :
    render (before ++ modulePathTag ++ after) context.names =
      .ok (before ++ context.project.modulePath ++ after) := by
  have htag : Reads (.text .keep) (before.toList ++ modulePathTag.toList)
      (textTokens before.toList ++
        [.exprStart, .name "app", .mark .dot, .name "module_path", .exprEnd]) (.text .keep) := by
    have hpath := @reads_text_path .keep before.toList "app" "module_path" hbefore hlast
      (by decide) (by decide)
    simp only [modulePathTag, String.reduceToList] at hpath ⊢
    exact hpath
  have htokens := tokens_lexemes htag hafter
  rw [← String.toList_append, ← String.toList_append] at htokens
  have hvalue (line : Nat) :
      runAll (initial context.names) [.emit (.attr (.var line "app") "module_path")] =
        .ok (context.project.modulePath, initial context.names) := by
    change Except.ok (context.project.modulePath ++ "", initial context.names) = _
    rw [String.append_empty]
  have hrun (line : Nat) := runAll_append
    (runAll_append (runAll_textProgram (initial context.names) before.toList) (hvalue line))
    (runAll_textProgram _ after.toList)
  simp only [String.ofList_toList] at hrun
  refine render_of_tokens htokens fun line => ?_
  -- whether there is text before and after the tag decides where the parser finds it
  cases hfront : before.toList with
  | nil =>
      cases hback : after.toList with
      | nil => exact ⟨_, _, _, rfl, hfront ▸ hback ▸ hrun (line 1)⟩
      | cons c cs => exact ⟨_, _, _, rfl, hfront ▸ hback ▸ hrun (line 1)⟩
  | cons b bs =>
      cases hback : after.toList with
      | nil => exact ⟨_, _, _, rfl, hfront ▸ hback ▸ hrun (line 2)⟩
      | cons c cs => exact ⟨_, _, _, rfl, hfront ▸ hback ▸ hrun (line 2)⟩

end Scaffold.Template

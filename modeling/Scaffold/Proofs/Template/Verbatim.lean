import Scaffold.Proofs.Template.Rendering
/-!
# Text without delimiters

What rendering leaves as it is. A text in which no delimiter opens is the same after rendering, and
a value that is inserted between two such texts is neither escaped nor read as a template again.
-/

namespace Scaffold.Template

open Lexer

def delimiters : List String := ["\x7b\x7b", "\x7b%", "\x7b#"]

/-- Whether a text holds none of the delimiters. -/
def HasNoDelimiter (text : String) : Prop :=
  ∀ delimiter ∈ delimiters, ¬ delimiter.toList <:+: text.toList

theorem opens_iff {cs : List Char} :
    opens cs = true ↔ ∃ delimiter ∈ delimiters, delimiter.toList <+: cs := by
  simp only [delimiters, List.mem_cons, List.not_mem_nil, or_false, exists_eq_or_imp,
    exists_eq_left, String.reduceToList]
  match cs with
  | [] => simp [opens]
  | [b] => simp [opens]
  | b :: c :: cs =>
      by_cases hb : b = '\x7b'
      · subst hb
        simp [opens, or_assoc, @eq_comm Char c]
      · rw [opens_cons_of_ne hb]
        simp [Ne.symm hb]

theorem isPlain_iff {text : String} : isPlain text.toList = true ↔ HasNoDelimiter text := by
  unfold HasNoDelimiter
  induction text.toList with
  | nil => simp [isPlain, delimiters]
  | cons c cs ih =>
      rw [isPlain_cons, ← Bool.not_eq_true, opens_iff, ih]
      -- a delimiter is found at the beginning of the text or behind its first character
      simp only [List.infix_cons_iff, not_or, not_exists, not_and]
      constructor
      · rintro ⟨hhere, hlater⟩ delimiter h
        exact ⟨hhere delimiter h, hlater delimiter h⟩
      · intro hboth
        exact ⟨fun delimiter h => (hboth delimiter h).1, fun delimiter h => (hboth delimiter h).2⟩

/-- Rendering keeps a text without delimiters, whatever the template is called and whatever it could
see. Between two such texts the tag of the module path gives way to the module path, character for
character. -/
theorem text_renders_verbatim (path : String) (context : Context) :
    (∀ source, HasNoDelimiter source → renderTemplate path source context = .ok source) ∧
    ∀ before after, HasNoDelimiter before → HasNoDelimiter after →
      before.toList.getLast? ≠ some '\x7b' →
      renderTemplate path (before ++ "\x7b\x7b app.module_path \x7d\x7d" ++ after) context =
        .ok (before ++ context.project.modulePath ++ after) := by
  constructor
  · intro source hsource
    rw [renderTemplate, render_of_isPlain context.names (isPlain_iff.mpr hsource)]
  · intro before after hbefore hafter hlast
    have hrender := render_modulePath context (isPlain_iff.mpr hbefore) hlast
      (isPlain_iff.mpr hafter)
    rw [modulePathTag] at hrender
    rw [renderTemplate, hrender]

/-- A module path that looks like markup and like a template. -/
theorem markup_renders_verbatim :
    let context : Context := ⟨⟨"shop", "<a & \"b\">\n\x7b\x7b 1 \x7d\x7d", ⟨"/work/shop"⟩⟩, .empty⟩
    HasNoDelimiter "<%= import(\"" ∧ HasNoDelimiter "/models\", \x7b\x7d) %>\r\n" ∧
    renderTemplate "x.html" ("<%= import(\"" ++ "\x7b\x7b app.module_path \x7d\x7d" ++
      "/models\", \x7b\x7d) %>\r\n") context =
      .ok ("<%= import(\"" ++ context.project.modulePath ++ "/models\", \x7b\x7d) %>\r\n") := by
  intro context
  have hbefore : HasNoDelimiter "<%= import(\"" := isPlain_iff.mp (by decide)
  have hafter : HasNoDelimiter "/models\", \x7b\x7d) %>\r\n" := isPlain_iff.mp (by decide)
  exact ⟨hbefore, hafter,
    (text_renders_verbatim "x.html" context).2 _ _ hbefore hafter (by decide)⟩

end Scaffold.Template

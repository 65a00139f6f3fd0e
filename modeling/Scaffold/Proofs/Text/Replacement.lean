import Mathlib.Data.List.Infix
/-!
# Replacing keys

Replacing some keys by their values in a text, all in one pass from left to right. What is put in is
not read again, and a part of the text in which no key begins stays as it is.
-/

namespace Scaffold.Text

section

variable (table : List (String × String))

def entryAt? (text : List Char) : Option (String × String) :=
  table.find? fun entry => entry.1.toList.isPrefixOf text

/-- A text with its keys replaced, after the characters that belong to the key before it. -/
def replaceFrom : Nat → List Char → List Char
  | _, [] => []
  | skip + 1, _ :: cs => replaceFrom skip cs
  | 0, c :: cs =>
    match entryAt? table (c :: cs) with
    | some (key, value) => value.toList ++ replaceFrom (key.length - 1) cs
    | none => c :: replaceFrom 0 cs

def replace (text : String) : String :=
  String.ofList (replaceFrom table 0 text.toList)

end

variable {table : List (String × String)}

theorem entryAt?_cons_self (key value : String) (rest : List Char) :
    entryAt? ((key, value) :: table) (key.toList ++ rest) = some (key, value) :=
  List.find?_cons_of_pos (List.isPrefixOf_iff_prefix.mpr (List.prefix_append _ _))

theorem entryAt?_cons_of_not_isPrefix {key : String} {text : List Char} (value : String)
    (h : ¬ key.toList <+: text) : entryAt? ((key, value) :: table) text = entryAt? table text :=
  List.find?_cons_of_neg (mt List.isPrefixOf_iff_prefix.mp h)

theorem not_prefix_of_head?_ne {key text : List Char} (hkey : key ≠ [])
    (h : key.head? ≠ text.head?) : ¬ key <+: text := by
  rintro ⟨rest, rfl⟩
  exact h (List.head?_append_of_ne_nil key hkey).symm

theorem replaceFrom_length_append (skipped rest : List Char) :
    replaceFrom table skipped.length (skipped ++ rest) = replaceFrom table 0 rest := by
  induction skipped with
  | nil => rfl
  | cons c skipped ih => exact ih

theorem replaceFrom_of_entryAt? {key value : String} {rest : List Char} (hkey : key ≠ "")
    (h : entryAt? table (key.toList ++ rest) = some (key, value)) :
    replaceFrom table 0 (key.toList ++ rest) = value.toList ++ replaceFrom table 0 rest := by
  cases hcs : key.toList with
  | nil => exact absurd (String.toList_eq_nil_iff.mp hcs) hkey
  | cons c cs =>
      have hlength : key.length - 1 = cs.length := by
        rw [← String.length_toList, hcs]
        rfl
      rw [hcs, List.cons_append] at h
      rw [List.cons_append, replaceFrom, h]
      dsimp only
      rw [hlength, replaceFrom_length_append]

/-- In front of what follows no key begins. -/
def Free (table : List (String × String)) (front rest : List Char) : Prop :=
  ∀ part, part <:+ front → part ≠ [] → entryAt? table (part ++ rest) = none

theorem replaceFrom_append_of_free {front rest : List Char} (h : Free table front rest) :
    replaceFrom table 0 (front ++ rest) = front ++ replaceFrom table 0 rest := by
  induction front with
  | nil => rfl
  | cons c front ih =>
      have hfirst := h (c :: front) List.suffix_rfl (List.cons_ne_nil c front)
      have hothers : Free table front rest := fun part hpart =>
        h part (hpart.trans (List.suffix_cons c front))
      rw [List.cons_append] at hfirst
      rw [List.cons_append, replaceFrom, hfirst]
      dsimp only
      rw [ih hothers, List.cons_append]

theorem replace_of_free {text : String} (h : Free table text.toList []) :
    replace table text = text := by
  have hreplaced := replaceFrom_append_of_free h
  rw [List.append_nil, replaceFrom, List.append_nil] at hreplaced
  rw [replace, hreplaced, String.ofList_toList]

theorem replace_append_of_free {front key value back : String} (hkey : key ≠ "")
    (hentry : entryAt? table (key.toList ++ back.toList) = some (key, value))
    (hfront : Free table front.toList (key.toList ++ back.toList))
    (hback : Free table back.toList []) :
    replace table (front ++ key ++ back) = front ++ value ++ back := by
  have hrest := replaceFrom_append_of_free hback
  rw [List.append_nil, replaceFrom, List.append_nil] at hrest
  rw [← String.toList_inj, replace, String.toList_ofList]
  simp only [String.toList_append, List.append_assoc]
  rw [replaceFrom_append_of_free hfront, replaceFrom_of_entryAt? hkey hentry, hrest]

/-- The second key comes out of the first one, so it stays. -/
example : replace [("app", "the web app"), ("web", "net")] "app, web" = "the web app, net" := by
  decide +kernel

end Scaffold.Text

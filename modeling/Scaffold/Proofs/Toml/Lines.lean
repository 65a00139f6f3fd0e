import Scaffold.Toml.Reader
/-!
# Lines that are read back

The lines of a document that are read back. A document is put together from blank lines, headers and
keys with values, each of which is read as what it was written for.
-/

namespace Scaffold.Toml

/-! ## Lines -/

/-- A character that a line can begin with; a blank, a comment and the end of a line are passed
over. -/
def beginsLine (c : Char) : Bool :=
  !([' ', '\t', '#', '\n', '\r'].contains c)

/-- A text that is read as one line, with the newline at its end. -/
structure IsLine (written : List Char) (line : Line) : Prop where
  begins : ∃ c ∈ written.head?, beginsLine c = true
  reads : ∀ n rest, readLine (n + 1) (written ++ rest) = some (line, rest)

inductive HasLines : List Char → List Line → Prop where
  | nil : HasLines [] []
  | blank {cs : List Char} {lines : List Line} (h : HasLines cs lines) : HasLines ('\n' :: cs) lines
  | line {written cs : List Char} {line : Line} {lines : List Line} (hline : IsLine written line)
      (h : HasLines cs lines) : HasLines (written ++ cs) (line :: lines)

theorem skipBlanks_cons {c : Char} (h : c ≠ ' ' ∧ c ≠ '\t') (cs : List Char) :
    skipBlanks (c :: cs) = c :: cs := by
  rw [skipBlanks, List.dropWhile_cons_of_neg]
  simpa using h

theorem skipLines_newline (n : Nat) (cs : List Char) :
    skipLines (n + 1) ('\n' :: cs) = skipLines n cs := by
  simp only [skipLines, skipBlanks_cons (c := '\n') (by decide)]

theorem skipLines_of_beginsLine {c : Char} (h : beginsLine c = true) (n : Nat) (cs : List Char) :
    skipLines (n + 1) (c :: cs) = some (c :: cs) := by
  simp only [beginsLine, List.contains_cons, List.contains_nil, Bool.or_false, Bool.not_or,
    Bool.and_eq_true, Bool.not_eq_true', beq_eq_false_iff_ne] at h
  rw [skipLines, skipBlanks_cons ⟨h.1, h.2.1⟩]
  simp_all

theorem HasLines.length_le {cs : List Char} {lines : List Line} (h : HasLines cs lines) :
    lines.length ≤ cs.length := by
  induction h with
  | nil => exact Nat.le_refl 0
  | blank _ ih => exact Nat.le_succ_of_le ih
  | line hline _ ih =>
      obtain ⟨c, hc, -⟩ := hline.begins
      obtain ⟨tail, rfl⟩ := List.head?_eq_some_iff.mp hc
      simp only [List.cons_append, List.length_cons, List.length_append]
      omega

/-- A document is read as its lines. -/
theorem readLines_of_hasLines {cs : List Char} {lines : List Line} (h : HasLines cs lines) {n : Nat}
    (hn : lines.length ≤ n) : readLines (n + 1) cs = some lines := by
  induction h generalizing n with
  | nil => rfl
  | blank _ ih =>
      rw [← ih hn, readLines, readLines, List.length_cons, skipLines_newline]
  | @line written cs line lines hline hrest ih =>
      obtain ⟨c, hc, hbegins⟩ := hline.begins
      obtain ⟨tail, rfl⟩ := List.head?_eq_some_iff.mp hc
      rw [List.length_cons] at hn
      obtain ⟨n, rfl⟩ := Nat.exists_eq_add_one_of_ne_zero (Nat.ne_zero_of_lt hn)
      rw [readLines, List.cons_append, skipLines_of_beginsLine hbegins]
      dsimp only
      rw [← List.cons_append, hline.reads]
      dsimp only
      rw [ih (Nat.le_of_succ_le_succ hn)]
      rfl

theorem parse_of_hasLines {source : String} {lines : List Line}
    (h : HasLines source.toList lines) :
    parse source = (addLines [] [] lines).map fun root => .table (Node.finish root) := by
  simp only [parse, readLines_of_hasLines h h.length_le]

/-! ## Keys and values -/

theorem endLine_newline (rest : List Char) : endLine ('\n' :: rest) = some rest := by
  simp only [endLine, skipBlanks_cons (c := '\n') (by decide)]

theorem readLine_of_header {n : Nat} {cs rest : List Char} {path : List String}
    (hcs : cs.head? ≠ some '[') (h : readHeader n [']'] cs = some (path, '\n' :: rest)) :
    readLine n ('[' :: cs) = some (.table path, rest) := by
  cases cs with
  | nil => simp [readLine, h, endLine_newline]
  | cons c cs =>
      have hc : c ≠ '[' := by simpa using hcs
      simp [readLine, hc, h, endLine_newline]

theorem readLine_of_entry {n : Nat} {cs rest more : List Char} {key : List String} {v : Value}
    (hcs : cs.head? ≠ some '[') (hkey : readKey n cs = some (key, rest))
    (hvalue : (skipEquals rest).bind (readValue n) = some (v, '\n' :: more)) :
    readLine n cs = some (.entry key v, more) := by
  cases cs with
  | nil => simp [readLine, hkey, hvalue, endLine_newline]
  | cons c cs =>
      have hc : c ≠ '[' := by simpa using hcs
      simp [readLine, hc, hkey, hvalue, endLine_newline]

structure IsBareKey (key : String) : Prop where
  ne_nil : key.toList ≠ []
  bare : ∀ c ∈ key.toList, isBare c = true

instance (key : String) : Decidable (IsBareKey key) :=
  decidable_of_iff (key.toList ≠ [] ∧ key.toList.all isBare = true)
    ⟨fun h => ⟨h.1, List.all_eq_true.mp h.2⟩, fun h => ⟨h.ne_nil, List.all_eq_true.mpr h.bare⟩⟩

/-- A text that is read as a value up to the end of its line. -/
structure IsValue (written : List Char) (v : Value) : Prop where
  begins : ∃ c ∈ written.head?, c ≠ ' ' ∧ c ≠ '\t'
  reads : ∀ n rest, readValue (n + 1) (written ++ '\n' :: rest) = some (v, '\n' :: rest)

theorem beginsLine_of_isBare {c : Char} (h : isBare c = true) :
    beginsLine c = true ∧ c ≠ '"' ∧ c ≠ '\'' ∧ c ≠ '[' := by
  have hne {x : Char} (hx : isBare x = false) : c ≠ x := by
    rintro rfl
    rw [h] at hx
    cases hx
  refine ⟨?_, hne (by decide), hne (by decide), hne (by decide)⟩
  have hspace := hne (x := ' ') (by decide)
  have htab := hne (x := '\t') (by decide)
  have hcomment := hne (x := '#') (by decide)
  have hnewline := hne (x := '\n') (by decide)
  have hreturn := hne (x := '\r') (by decide)
  simp [beginsLine, hspace, htab, hcomment, hnewline, hreturn]

namespace IsBareKey

variable {key : String} (h : IsBareKey key)

include h

theorem exists_cons : ∃ c cs, key.toList = c :: cs ∧ isBare c = true := by
  obtain ⟨c, cs, hkey⟩ := List.exists_cons_of_ne_nil h.ne_nil
  exact ⟨c, cs, hkey, h.bare c (by simp [hkey])⟩

theorem readName {rest : List Char} (hrest : ∀ c ∈ rest.head?, isBare c = false) :
    readName (key.toList ++ rest) = some (key, rest) := by
  have hnone : rest.takeWhile isBare = [] ∧ rest.dropWhile isBare = rest := by
    cases rest with
    | nil => exact ⟨rfl, rfl⟩
    | cons c rest =>
        have hc := hrest c rfl
        exact ⟨List.takeWhile_cons_of_neg (by simp [hc]), List.dropWhile_cons_of_neg (by simp [hc])⟩
  have htake : (key.toList ++ rest).takeWhile isBare = key.toList := by
    rw [List.takeWhile_append_of_pos h.bare, hnone.1, List.append_nil]
  have hdrop : (key.toList ++ rest).dropWhile isBare = rest := by
    rw [List.dropWhile_append_of_pos h.bare, hnone.2]
  obtain ⟨c, cs, hkey, hc⟩ := h.exists_cons
  obtain ⟨-, hquote, hmark, -⟩ := beginsLine_of_isBare hc
  rw [Toml.readName]
  · simp only [htake, hdrop]
    rw [if_neg (by simpa using h.ne_nil), String.ofList_toList]
  · rw [hkey]
    exact fun rest heq => hquote (List.cons.inj heq).1
  · rw [hkey]
    exact fun rest heq => hmark (List.cons.inj heq).1

theorem readKey {rest : List Char} (hrest : ∀ c ∈ rest.head?, isBare c = false)
    (hdot : (skipBlanks rest).head? ≠ some '.') (n : Nat) :
    readKey (n + 1) (key.toList ++ rest) = some ([key], skipBlanks rest) := by
  obtain ⟨c, cs, hkey, hc⟩ := h.exists_cons
  have hblank : c ≠ ' ' ∧ c ≠ '\t' := by
    constructor <;> (rintro rfl; exact absurd hc (by decide))
  have hskip : skipBlanks (key.toList ++ rest) = key.toList ++ rest := by
    rw [hkey, List.cons_append, skipBlanks_cons hblank]
  rw [Toml.readKey, hskip, h.readName hrest]
  dsimp only
  split
  · next heq => simp [heq] at hdot
  · rfl

theorem head?_ne_bracket (rest : List Char) : (key.toList ++ rest).head? ≠ some '[' := by
  obtain ⟨c, cs, hkey, hc⟩ := h.exists_cons
  obtain ⟨-, -, -, hbracket⟩ := beginsLine_of_isBare hc
  simpa [hkey] using hbracket

theorem isLine_header : IsLine ('[' :: (key.toList ++ [']', '\n'])) (.table [key]) where
  begins := ⟨'[', rfl, rfl⟩
  reads n rest := by
    have hskip : skipBlanks (']' :: '\n' :: rest) = ']' :: '\n' :: rest :=
      skipBlanks_cons (by decide) _
    have hread : readHeader (n + 1) [']'] (key.toList ++ ']' :: '\n' :: rest) =
        some ([key], '\n' :: rest) := by
      rw [readHeader, h.readKey (by simp; decide) (by simp [hskip]), hskip]
      rfl
    rw [List.cons_append, List.append_assoc]
    exact readLine_of_header (h.head?_ne_bracket _) hread

theorem isLine_entry {written : List Char} {v : Value} (hvalue : IsValue written v) :
    IsLine (key.toList ++ [' ', '=', ' '] ++ written ++ ['\n']) (.entry [key] v) where
  begins := by
    obtain ⟨c, cs, hkey, hc⟩ := h.exists_cons
    exact ⟨c, by simp [hkey], (beginsLine_of_isBare hc).1⟩
  reads n rest := by
    have hskip : skipBlanks (' ' :: '=' :: ' ' :: (written ++ '\n' :: rest)) =
        '=' :: ' ' :: (written ++ '\n' :: rest) :=
      skipBlanks_cons (c := '=') (by decide) _
    have hread : Toml.readKey (n + 1)
        (key.toList ++ ' ' :: '=' :: ' ' :: (written ++ '\n' :: rest)) =
        some ([key], skipBlanks (' ' :: '=' :: ' ' :: (written ++ '\n' :: rest))) :=
      h.readKey (by simp; decide) (by simp [hskip]) n
    have hequals : skipEquals ('=' :: ' ' :: (written ++ '\n' :: rest)) =
        some (written ++ '\n' :: rest) := by
      obtain ⟨c, hc, hblank⟩ := hvalue.begins
      obtain ⟨tail, rfl⟩ := List.head?_eq_some_iff.mp hc
      exact congrArg some (skipBlanks_cons hblank _)
    have htext : key.toList ++ [' ', '=', ' '] ++ written ++ ['\n'] ++ rest =
        key.toList ++ ' ' :: '=' :: ' ' :: (written ++ '\n' :: rest) := by simp
    rw [htext]
    refine readLine_of_entry (h.head?_ne_bracket _) hread ?_
    rw [hskip, hequals]
    exact hvalue.reads n rest

end IsBareKey

end Scaffold.Toml

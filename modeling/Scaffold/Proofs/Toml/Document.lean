import Mathlib.Data.List.Nodup
import Scaffold.Proofs.Toml.Lines
/-!
# Documents that are read back

A document of headers, each with keys below it, is read as a table of tables that has just those
entries, as long as no name and no key is given twice.
-/

namespace Scaffold.Toml

/-! ## Entries -/

section

variable {α : Type} {name : String} {before : List (String × α)}
  (h : ∀ e ∈ before, e.1 ≠ name)

include h

theorem lookup_append_of_new (after : List (String × α)) :
    (before ++ after).lookup name = after.lookup name := by
  induction before with
  | nil => rfl
  | cons e before ih =>
      obtain ⟨hfirst, hrest⟩ := List.forall_mem_cons.mp h
      rw [List.cons_append, List.lookup_cons, beq_false_of_ne (Ne.symm hfirst)]
      exact ih hrest

theorem setEntry_append_of_new (v : α) (after : List (String × α)) :
    setEntry name v (before ++ after) = before ++ setEntry name v after := by
  induction before with
  | nil => rfl
  | cons e before ih =>
      obtain ⟨hfirst, hrest⟩ := List.forall_mem_cons.mp h
      rw [List.cons_append, setEntry, if_neg hfirst, ih hrest, List.cons_append]

theorem lookup_of_new : before.lookup name = none := by
  simpa using lookup_append_of_new h []

theorem setEntry_of_new (v : α) : setEntry name v before = before ++ [(name, v)] := by
  simpa [setEntry] using setEntry_append_of_new h v []

end

theorem new_of_notMem {α β : Type} {name : String} {nameOf : α → String} {items : List α}
    (hname : name ∉ items.map nameOf) {before : List (String × β)}
    (hbefore : ∀ item ∈ items, ∀ e ∈ before, e.1 ≠ nameOf item) (b : β) :
    ∀ item ∈ items, ∀ e ∈ before ++ [(name, b)], e.1 ≠ nameOf item := by
  intro item hitem e he
  rcases List.mem_append.mp he with he | he
  · exact hbefore item hitem e he
  · rintro heq
    obtain rfl := List.mem_singleton.mp he
    exact hname (List.mem_map.mpr ⟨item, hitem, heq.symm⟩)

/-! ## Parts -/

structure Field where
  key : String
  written : List Char
  value : Value

namespace Field

def text (field : Field) : List Char :=
  field.key.toList ++ [' ', '=', ' '] ++ field.written ++ ['\n']

def line (field : Field) : Line :=
  .entry [field.key] field.value

def entry (field : Field) : String × Value :=
  (field.key, field.value)

end Field

/-- A header and the fields below it. -/
structure Part where
  name : String
  fields : List Field

namespace Part

def text (part : Part) : List Char :=
  '[' :: (part.name.toList ++ [']', '\n']) ++ part.fields.flatMap Field.text

def lines (part : Part) : List Line :=
  .table [part.name] :: part.fields.map Field.line

def entry (part : Part) : String × Value :=
  (part.name, .table (part.fields.map Field.entry))

def node (part : Part) : String × Node :=
  (part.name, .table .header (part.fields.map fun field => (field.key, .value field.value)))

/-- The part can be read: the name and the keys need no quotation marks, the values are read as
they should be, and no key is given twice. -/
structure IsReadable (part : Part) : Prop where
  name : IsBareKey part.name
  keys : ∀ field ∈ part.fields, IsBareKey field.key
  values : ∀ field ∈ part.fields, IsValue field.written field.value
  nodup : (part.fields.map Field.key).Nodup

end Part

/-! ## Reading -/

theorem hasLines_fields {fields : List Field} (hkeys : ∀ field ∈ fields, IsBareKey field.key)
    (hvalues : ∀ field ∈ fields, IsValue field.written field.value) {cs : List Char}
    {lines : List Line} (h : HasLines cs lines) :
    HasLines (fields.flatMap Field.text ++ cs) (fields.map Field.line ++ lines) := by
  induction fields with
  | nil => exact h
  | cons field fields ih =>
      obtain ⟨hkey, hkeys⟩ := List.forall_mem_cons.mp hkeys
      obtain ⟨hvalue, hvalues⟩ := List.forall_mem_cons.mp hvalues
      rw [List.flatMap_cons, List.append_assoc]
      exact .line (hkey.isLine_entry hvalue) (ih hkeys hvalues)

theorem hasLines_part {part : Part} (hpart : part.IsReadable) {cs : List Char} {lines : List Line}
    (h : HasLines cs lines) : HasLines (part.text ++ cs) (part.lines ++ lines) := by
  rw [Part.text, List.append_assoc]
  exact .line hpart.name.isLine_header (hasLines_fields hpart.keys hpart.values h)

theorem hasLines_parts {parts : List Part} (hparts : ∀ part ∈ parts, part.IsReadable) :
    HasLines (Text.joinWith ['\n'] (parts.map Part.text)) (parts.flatMap Part.lines) := by
  induction parts with
  | nil => exact .nil
  | cons part parts ih =>
      obtain ⟨hpart, hrest⟩ := List.forall_mem_cons.mp hparts
      cases parts with
      | nil => simpa [Text.joinWith] using hasLines_part hpart .nil
      | cons next parts =>
          have hmore := hasLines_part hpart (ih hrest).blank
          rw [List.map_cons, List.map_cons, Text.joinWith, List.append_assoc]
          · exact hmore
          · simp

/-! ## Construction -/

section

variable {name : String} {before : List (String × Node)} (hname : ∀ e ∈ before, e.1 ≠ name)

include hname

theorem addLines_header (here : List String) (lines : List Line) :
    addLines here before (.table [name] :: lines) =
      addLines [name] (before ++ [(name, .table .header [])]) lines := by
  have hopen : Node.modify (Node.openTable name) [] before =
      some (before ++ [(name, .table .header [])]) := by
    rw [Node.modify, Node.openTable, lookup_of_new hname]
    exact congrArg some (setEntry_of_new hname _)
  rw [addLines]
  simp only [List.getLast?_singleton, Option.getD_some, List.dropLast_singleton, hopen]

theorem addLines_entry {entries : List (String × Node)} {key : String}
    (hkey : ∀ e ∈ entries, e.1 ≠ key) (v : Value) (lines : List Line) :
    addLines [name] (before ++ [(name, .table .header entries)]) (.entry [key] v :: lines) =
      addLines [name] (before ++ [(name, .table .header (entries ++ [(key, .value v)]))]) lines := by
  have hdefine : Node.define v [key] entries = some (entries ++ [(key, .value v)]) := by
    rw [Node.define, lookup_of_new hkey]
    exact congrArg some (setEntry_of_new hkey _)
  have hmodify : Node.modify (Node.define v [key]) [name]
      (before ++ [(name, .table .header entries)]) =
        some (before ++ [(name, .table .header (entries ++ [(key, .value v)]))]) := by
    rw [Node.modify, lookup_append_of_new hname, List.lookup_cons_self]
    dsimp only
    rw [Node.modify, hdefine, Option.map_some, setEntry_append_of_new hname, setEntry, if_pos rfl]
  rw [addLines, hmodify]

theorem addLines_fields {entries : List (String × Node)} {fields : List Field}
    (hnodup : (fields.map Field.key).Nodup)
    (hkeys : ∀ field ∈ fields, ∀ e ∈ entries, e.1 ≠ field.key) (lines : List Line) :
    addLines [name] (before ++ [(name, .table .header entries)]) (fields.map Field.line ++ lines) =
      addLines [name]
        (before ++ [(name, .table .header
          (entries ++ fields.map fun field => (field.key, .value field.value)))]) lines := by
  induction fields generalizing entries with
  | nil => rw [List.map_nil, List.map_nil, List.append_nil, List.nil_append]
  | cons field fields ih =>
      obtain ⟨hkey, hrest⟩ := List.forall_mem_cons.mp hkeys
      rw [List.map_cons, List.nodup_cons] at hnodup
      rw [List.map_cons, List.cons_append, Field.line, addLines_entry hname hkey,
        ih hnodup.2 (new_of_notMem hnodup.1 hrest _), List.append_assoc, List.map_cons,
        List.singleton_append]

end

theorem addLines_parts {before : List (String × Node)} {parts : List Part}
    (hparts : ∀ part ∈ parts, (part.fields.map Field.key).Nodup)
    (hnodup : (parts.map Part.name).Nodup)
    (hnames : ∀ part ∈ parts, ∀ e ∈ before, e.1 ≠ part.name) (here : List String) :
    addLines here before (parts.flatMap Part.lines) = some (before ++ parts.map Part.node) := by
  induction parts generalizing before here with
  | nil => rw [List.map_nil, List.append_nil]; rfl
  | cons part parts ih =>
      obtain ⟨hfields, hparts⟩ := List.forall_mem_cons.mp hparts
      obtain ⟨hname, hrest⟩ := List.forall_mem_cons.mp hnames
      rw [List.map_cons, List.nodup_cons] at hnodup
      rw [List.flatMap_cons, Part.lines, List.cons_append, addLines_header hname,
        addLines_fields hname hfields (by simp),
        ih hparts hnodup.2 (new_of_notMem hnodup.1 hrest _), List.append_assoc, List.map_cons,
        List.singleton_append]
      rfl

theorem finish_fields (fields : List Field) :
    Node.finish (fields.map fun field => (field.key, .value field.value)) =
      fields.map Field.entry := by
  induction fields with
  | nil => rw [List.map_nil, List.map_nil, Node.finish]
  | cons field fields ih =>
      rw [List.map_cons, List.map_cons, Node.finish, Node.toValue, ih, Field.entry]

theorem finish_parts (parts : List Part) :
    Node.finish (parts.map Part.node) = parts.map Part.entry := by
  induction parts with
  | nil => rw [List.map_nil, List.map_nil, Node.finish]
  | cons part parts ih =>
      rw [List.map_cons, List.map_cons, Part.node, Node.finish, Node.toValue, ih, finish_fields,
        Part.entry]

/-- A document of parts is read as the table of those parts. -/
theorem parse_parts {parts : List Part} (hparts : ∀ part ∈ parts, part.IsReadable)
    (hnodup : (parts.map Part.name).Nodup) :
    parse (String.ofList (Text.joinWith ['\n'] (parts.map Part.text))) =
      some (.table (parts.map Part.entry)) := by
  have hlines : HasLines (String.ofList (Text.joinWith ['\n'] (parts.map Part.text))).toList
      (parts.flatMap Part.lines) := by
    rw [String.toList_ofList]
    exact hasLines_parts hparts
  rw [parse_of_hasLines hlines,
    addLines_parts (fun part hpart => (hparts part hpart).nodup) hnodup (by simp), List.nil_append,
    Option.map_some, finish_parts]

end Scaffold.Toml

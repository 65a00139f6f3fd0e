import Scaffold.Attribute.Basic
/-!
# Attribute sets

Ordered sets of attributes, unique by normalized name. Reserved names count as present but are
never stored, so a set holds only what the user added.
-/

namespace Scaffold

structure AttributeSet where
  toList : List Attribute
  deriving DecidableEq, Repr

namespace AttributeSet

def empty : AttributeSet := ⟨[]⟩

def contains (set : AttributeSet) (name : String) : Bool :=
  Attribute.isReservedName name ||
    set.toList.any fun a => a.normalized = Attribute.normalize name

/-- Adds an attribute at the end, unless it is reserved or its name is present, and says whether it
did. -/
def tryInsert (set : AttributeSet) (a : Attribute) : Bool × AttributeSet :=
  if a.isReserved || set.contains a.name then (false, set) else (true, ⟨set.toList ++ [a]⟩)

def insert (set : AttributeSet) (a : Attribute) : AttributeSet :=
  (set.tryInsert a).2

/-- The set of a list of specifications; the first one that cannot be read decides the failure. -/
def ofSpecs (specs : List String) : Except Failure AttributeSet :=
  go empty specs
where
  go (set : AttributeSet) : List String → Except Failure AttributeSet
    | [] => .ok set
    | spec :: specs =>
      match Attribute.parse spec with
      | .ok a => go (set.insert a) specs
      | .error failure => .error failure

def names (set : AttributeSet) : List String :=
  set.toList.map (·.name)

def size (set : AttributeSet) : Nat :=
  set.toList.length

end AttributeSet

end Scaffold

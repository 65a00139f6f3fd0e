import Scaffold.Text.Find
import Scaffold.Text.Raw
/-!
# Paths

Slash-separated paths. A path keeps the octets it was written with, which need not be text; what it
denotes is its list of components, in which repeated slashes, inner `.` segments and a trailing
slash leave no trace. Two paths are the same, and are ordered, by their components.
-/

namespace Scaffold

open Text

/-- A path as it was written. -/
structure Path where
  raw : RawText
  deriving DecidableEq, Repr

namespace Path

def slash : UInt8 := 0x2F

def dot : UInt8 := 0x2E

inductive Component where
  | root
  /-- The `.` a relative path may begin with. -/
  | here
  | up
  | name (raw : RawText)
  deriving DecidableEq, Repr

namespace Component

def raw : Component → RawText
  | root => "/"
  | here => "."
  | up => ".."
  | name raw => raw

def shown (c : Component) : String :=
  c.raw.shown

def rank : Component → Nat
  | root => 0
  | here => 1
  | up => 2
  | name _ => 3

def compare (a b : Component) : Ordering :=
  match a, b with
  | name s, name t => Ord.compare s.octets t.octets
  | a, b => Ord.compare a.rank b.rank

end Component

def compareComponents : List Component → List Component → Ordering
  | [], [] => .eq
  | [], _ :: _ => .lt
  | _ :: _, [] => .gt
  | a :: as, b :: bs => (a.compare b).then (compareComponents as bs)

def text (path : Path) : String :=
  path.raw.shown

def octets (path : Path) : List UInt8 :=
  path.raw.octets

def segments (path : Path) : List (List UInt8) :=
  fields slash path.octets

def component? (segment : List UInt8) : Option Component :=
  if segment = [] ∨ segment = [dot] then none
  else if segment = [dot, dot] then some .up
  else some (.name ⟨segment⟩)

def componentsOf : List (List UInt8) → List Component
  | [] => []
  | [] :: [] => []
  | [] :: rest => .root :: rest.filterMap component?
  | segment :: rest =>
    (if segment = [dot] then [Component.here] else (component? segment).toList) ++
      rest.filterMap component?

def components (path : Path) : List Component :=
  componentsOf path.segments

def isAbsolute (path : Path) : Bool :=
  path.octets.head? = some slash

def same (p q : Path) : Bool :=
  p.components = q.components

def compare (p q : Path) : Ordering :=
  compareComponents p.components q.components

/-- The path with each component once, joined by slashes, as the user sees it. Two names that are
not text may be shown alike. -/
def toSlash (path : Path) : String :=
  String.intercalate "/" (path.components.map Component.shown)

/-- The path `p` seen from the directory `base`; `p` itself if it is absolute. -/
def join (base p : Path) : Path :=
  if p.isAbsolute ∨ base.octets = [] then p
  else if base.octets.getLast? = some slash then ⟨⟨base.octets ++ p.octets⟩⟩
  else ⟨⟨base.octets ++ slash :: p.octets⟩⟩

/-- A segment that adds no component, unless it is the first one. -/
def isIdle (segment : List UInt8) : Bool :=
  segment = [] ∨ segment = [dot]

/-- Reversed segments without the last ones that add no component. The first segment, which is the
last of the list, stays. -/
def dropIdle : List (List UInt8) → List (List UInt8)
  | [] => []
  | [lead] => [lead]
  | segment :: rest => if isIdle segment then dropIdle rest else segment :: rest

def ofReversed (segments : List (List UInt8)) : Path :=
  if segments = [[]] then ⟨"/"⟩ else ⟨⟨joinWith [slash] segments.reverse⟩⟩

/-- The path without its last component; nothing is above the root and the empty path. -/
def parent? (path : Path) : Option Path :=
  match dropIdle path.segments.reverse with
  | [] | [[]] => none
  | [_] => some ⟨""⟩
  | _ :: rest => some (ofReversed (dropIdle rest))

/-- The last component, if it is a name and a text. -/
def fileName? (path : Path) : Option String :=
  match path.components.getLast? with
  | some (.name raw) => raw.text?
  | _ => none

end Path

end Scaffold

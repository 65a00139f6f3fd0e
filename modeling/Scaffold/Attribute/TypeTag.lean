import Scaffold.Text.Find
/-!
# Type tags

Type tags of attributes. A tag names a base type and may mark it as nullable, by the beginning
`nulls.` in any case or by a question mark at the end. A tag whose base type is known determines
the field type of the generated model; every tag determines a column type.
-/

namespace Scaffold.TypeTag

open Text

inductive Base where
  | string | text | int | int64 | decimal | boolean | timestamp | date | uuid
  deriving DecidableEq, Repr

def Base.ofName? (name : String) : Option Base :=
  match name with
  | "string" => some string
  | "text" => some text
  | "int" | "integer" => some int
  | "int64" => some int64
  | "float" | "float64" | "decimal" => some decimal
  | "bool" | "boolean" => some boolean
  | "time" | "timestamp" | "datetime" => some timestamp
  | "date" => some date
  | "uuid" => some uuid
  | _ => none

def lowerAscii (cs : List Char) : List Char :=
  cs.map Char.toLower

def split (tag : List Char) : List Char × Bool :=
  if ['n', 'u', 'l', 'l', 's', '.'].isPrefixOf (lowerAscii tag) then (tag.drop 6, true)
  else
    match beforeSuffix? ['?'] tag with
    | some base => (base, true)
    | none => (tag, false)

def isNullable (tag : String) : Bool :=
  (split tag.toList).2

def base? (tag : String) : Option Base :=
  Base.ofName? (String.ofList (lowerAscii (split tag.toList).1))

def Base.plainField : Base → String
  | string | text => "string"
  | int => "int"
  | int64 => "int64"
  | decimal => "float64"
  | boolean => "bool"
  | timestamp | date => "time.Time"
  | uuid => "uuid.UUID"

def Base.nullableField : Base → String
  | string | text => "nulls.String"
  | int => "nulls.Int"
  | int64 => "nulls.Int64"
  | decimal => "nulls.Float64"
  | boolean => "nulls.Bool"
  | timestamp | date => "nulls.Time"
  | uuid => "uuid.UUID"

/-- The field type of a tag in the generated model; an unknown base name stands for itself. -/
def fieldType (tag : String) : String :=
  match base? tag with
  | some base => if isNullable tag then base.nullableField else base.plainField
  | none => String.ofList (split tag.toList).1

def Base.column : Base → String
  | string => "string"
  | text => "text"
  | int | int64 => "integer"
  | decimal => "decimal"
  | boolean => "bool"
  | timestamp => "timestamp"
  | date => "date"
  | uuid => "uuid"

def columnType (tag : String) : String :=
  match base? tag with
  | some base => base.column
  | none => "string"

/-- The column option that a tag calls for. -/
def columnOption (tag : String) : String :=
  if isNullable tag then "\"null\": true" else ""

end Scaffold.TypeTag

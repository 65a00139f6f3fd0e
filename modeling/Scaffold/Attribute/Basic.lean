import Scaffold.Attribute.TypeTag
import Scaffold.Attribute.Words
import Scaffold.Failure
import Scaffold.Text.Blank
/-!
# Attributes

Attributes: named, typed fields that the user adds to the generated code. An attribute is written
`name[:type]`; it becomes a field of the model, a column of the migration and an input row of the
form.
-/

namespace Scaffold

open Text

/-- A named, typed field. It is marked if the generated code declares the name itself. -/
structure Attribute where
  name : String
  typeTag : String
  isReserved : Bool
  deriving DecidableEq, Repr

namespace Attribute

def defaultType : String := "string"

/-- Normalized names that the generated code declares itself. -/
def reservedNames : List String :=
  ["email", "password", "id", "recovery_code", "recovery_expiration"]

/-- The form in which names are compared, also the name of the column. -/
def normalize (name : String) : String :=
  String.ofList (Words.snake name.toList)

def isReservedName (name : String) : Bool :=
  reservedNames.contains (normalize name)

inductive Fault where
  | empty
  | severalColons
  | nameMissing
  | badFirst
  | badCharacter (c : Char)
  | typeMissing
  deriving DecidableEq, Repr

def Fault.message : Fault → String
  | empty => "attribute is empty"
  | severalColons => "expected name:type with a single ':'"
  | nameMissing => "name is missing"
  | badFirst => "name must start with a letter"
  | badCharacter c => "name contains '" ++ String.singleton c ++ "'"
  | typeMissing => "type is missing after ':'"

def isNameCharacter (c : Char) : Bool :=
  c.isAlphanum || c = '_' || c = '-'

def nameFault? (name : List Char) : Option Fault :=
  match name with
  | [] => some .nameMissing
  | c :: _ =>
    if c.isAlpha then (name.find? fun d => !isNameCharacter d).map .badCharacter
    else some .badFirst

def make (name typeTag : String) : Attribute :=
  ⟨name, typeTag, isReservedName name⟩

/-- The attribute of a name and a type, the type being absent if there is no colon. -/
def ofParts (name : List Char) (type? : Option (List Char)) : Except Fault Attribute :=
  match nameFault? name, type? with
  | some fault, _ => .error fault
  | none, none => .ok (make (String.ofList name) defaultType)
  | none, some [] => .error .typeMissing
  | none, some tag => .ok (make (String.ofList name) (String.ofList tag))

def ofText (text : List Char) : Except Fault Attribute :=
  if text.isEmpty then .error .empty
  else
    match fields ':' text with
    | [name] => ofParts (trim name) none
    | [name, tag] => ofParts (trim name) (some (trim tag))
    | _ => .error .severalColons

def parse (spec : String) : Except Failure Attribute :=
  match ofText (trim spec.toList) with
  | .ok a => .ok a
  | .error fault => .error (.invalidAttribute spec fault.message)

def toText (a : Attribute) : String :=
  a.name ++ ":" ++ a.typeTag

def normalized (a : Attribute) : String :=
  normalize a.name

def displayName (a : Attribute) : String :=
  String.ofList (Words.pascal a.name.toList)

def isNullable (a : Attribute) : Bool :=
  TypeTag.isNullable a.typeTag

def fieldType (a : Attribute) : String :=
  TypeTag.fieldType a.typeTag

def columnType (a : Attribute) : String :=
  TypeTag.columnType a.typeTag

end Attribute

end Scaffold

import Scaffold.Text.Utf8
/-!
# Raw texts

The names of files and what they are made of. A raw text is any octets; most are the UTF-8 form of
a text, and what is not is shown to the user with replacement characters.
-/

namespace Scaffold

open Text

/-- Octets that stand where a text is expected. -/
structure RawText where
  octets : List UInt8
  deriving DecidableEq, Repr

namespace RawText

def ofString (text : String) : RawText :=
  ⟨Utf8.encode text.toList⟩

instance : Coe String RawText := ⟨ofString⟩

instance : Append RawText where
  append a b := ⟨a.octets ++ b.octets⟩

def isEmpty (raw : RawText) : Bool :=
  raw.octets.isEmpty

def text? (raw : RawText) : Option String :=
  String.fromUTF8? raw.octets.toByteArray

/-- The octets as the user sees them: a replacement character stands for each part that is not
UTF-8. -/
def shown (raw : RawText) : String :=
  match raw.text? with
  | some text => text
  | none => String.ofList (Utf8.decodeFrom none raw.octets)

end RawText

end Scaffold

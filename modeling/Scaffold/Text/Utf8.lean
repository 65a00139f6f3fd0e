/-!
# UTF-8

Writing texts as octets, and reading octets as text where parts that are not UTF-8 are replaced.
Each longest beginning of a character that cannot be completed becomes one replacement character.
-/

namespace Scaffold.Text.Utf8

def encode (cs : List Char) : List UInt8 :=
  cs.flatMap String.utf8EncodeChar

theorem toByteArray_encode (text : String) :
    (encode text.toList).toByteArray = text.toUTF8 := by
  change text.toList.utf8Encode = text.toByteArray
  rw [← String.toByteArray_ofList, String.ofList_toList]

theorem fromUTF8?_eq_some_iff {content : ByteArray} {text : String} :
    String.fromUTF8? content = some text ↔ content = text.toUTF8 := by
  constructor
  · intro h
    rw [String.fromUTF8?] at h
    split at h
    · exact congrArg String.toUTF8 (Option.some.inj h)
    · cases h
  · rintro rfl
    exact dif_pos text.isValidUTF8

/-- A character of which some octets were read: the bits so far and the range that each octet
still due must lie in. -/
structure Started where
  bits : Nat
  /-- The ranges of the octets that complete the character; the list is not empty. -/
  due : List (Nat × Nat)

def replacement : Char := '\uFFFD'

def first (b : Nat) : Char ⊕ Started :=
  if b < 0x80 then .inl (Char.ofNat b)
  else if b < 0xC2 then .inl replacement
  else if b < 0xE0 then .inr ⟨b - 0xC0, [(0x80, 0xBF)]⟩
  else if b = 0xE0 then .inr ⟨0, [(0xA0, 0xBF), (0x80, 0xBF)]⟩
  else if b = 0xED then .inr ⟨0xD, [(0x80, 0x9F), (0x80, 0xBF)]⟩
  else if b < 0xF0 then .inr ⟨b - 0xE0, [(0x80, 0xBF), (0x80, 0xBF)]⟩
  else if b = 0xF0 then .inr ⟨0, [(0x90, 0xBF), (0x80, 0xBF), (0x80, 0xBF)]⟩
  else if b < 0xF4 then .inr ⟨b - 0xF0, [(0x80, 0xBF), (0x80, 0xBF), (0x80, 0xBF)]⟩
  else if b = 0xF4 then .inr ⟨4, [(0x80, 0x8F), (0x80, 0xBF), (0x80, 0xBF)]⟩
  else .inl replacement

/-- Reads an octet that must start a character: what is finished and what is under way then. -/
def start (b : UInt8) : List Char × Option Started :=
  match first b.toNat with
  | .inl c => ([c], none)
  | .inr s => ([], some s)

def proceed (s : Started) (b : UInt8) : List Char × Option Started :=
  match s.due with
  | [] => start b
  | (low, high) :: due =>
    if low ≤ b.toNat ∧ b.toNat ≤ high then
      let bits := s.bits * 64 + (b.toNat - 0x80)
      if due.isEmpty then ([Char.ofNat bits], none) else ([], some ⟨bits, due⟩)
    else (replacement :: (start b).1, (start b).2)

def decodeFrom : Option Started → List UInt8 → List Char
  | none, [] => []
  | some _, [] => [replacement]
  | none, b :: bs => (start b).1 ++ decodeFrom (start b).2 bs
  | some s, b :: bs => (proceed s b).1 ++ decodeFrom (proceed s b).2 bs

/-- The text of some octets, with a replacement character for each part that is not UTF-8. -/
def decode (bytes : ByteArray) : String :=
  match String.fromUTF8? bytes with
  | some text => text
  | none => String.ofList (decodeFrom none bytes.toList)

end Scaffold.Text.Utf8

/-!
UTF-8. `encode` writes the bytes of a text; `decode` reads any bytes, a U+FFFD standing for each
maximal run of bytes that starts a character and breaks off, and for each byte that starts none.
-/

namespace DocumentSearch.Text.Utf8

def encode (s : String) : List UInt8 := s.toList.flatMap String.utf8EncodeChar

/-- What stands for bytes that are no character. -/
def replacement : Char := '\uFFFD'

/-- A character of which some bytes have been read. -/
structure Begun where
  /-- The bits read so far. -/
  code : Nat
  /-- How many bytes are to come after the next one. -/
  more : Nat
  /-- The least the next byte may be. -/
  low : Nat
  /-- The greatest the next byte may be. -/
  high : Nat

/-- What a byte is at the start of a character. -/
inductive Start where
  | whole (c : Char)
  | lead (begun : Begun)
  | stray

/-- The first byte of a character tells its length; the second byte is held to the range that rules
out overlong forms, surrogates and numbers past U+10FFFF. -/
def start (byte : UInt8) : Start :=
  let b := byte.toNat
  if b < 0x80 then .whole (Char.ofNat b)
  else if b < 0xC2 then .stray
  else if b < 0xE0 then .lead ⟨b - 0xC0, 0, 0x80, 0xBF⟩
  else if b = 0xE0 then .lead ⟨b - 0xE0, 1, 0xA0, 0xBF⟩
  else if b = 0xED then .lead ⟨b - 0xE0, 1, 0x80, 0x9F⟩
  else if b < 0xF0 then .lead ⟨b - 0xE0, 1, 0x80, 0xBF⟩
  else if b = 0xF0 then .lead ⟨b - 0xF0, 2, 0x90, 0xBF⟩
  else if b < 0xF4 then .lead ⟨b - 0xF0, 2, 0x80, 0xBF⟩
  else if b = 0xF4 then .lead ⟨b - 0xF0, 2, 0x80, 0x8F⟩
  else .stray

/-- The characters of the bytes to come, given the one that has been begun. -/
def decodeFrom : Option Begun → List UInt8 → List Char
  | none, [] => []
  | some _, [] => [replacement]
  | begun, byte :: rest =>
    let fresh (broken : List Char) : List Char :=
      match start byte with
      | .whole c => broken ++ c :: decodeFrom none rest
      | .lead next => broken ++ decodeFrom (some next) rest
      | .stray => broken ++ replacement :: decodeFrom none rest
    match begun with
    | none => fresh []
    | some p =>
      if p.low ≤ byte.toNat ∧ byte.toNat ≤ p.high then
        let code := p.code * 64 + byte.toNat % 64
        match p.more with
        | 0 => Char.ofNat code :: decodeFrom none rest
        | more + 1 => decodeFrom (some ⟨code, more, 0x80, 0xBF⟩) rest
      else fresh [replacement]

/-- The text of some bytes. -/
def decode (bytes : List UInt8) : String := String.ofList (decodeFrom none bytes)

end DocumentSearch.Text.Utf8

import DocumentSearch.Text.Utf8

/-!
Laws of UTF-8. The bytes of a character are read as that character, whatever follows them, so
reading the bytes of a text gives the text back (`decode_encode`).

A first byte tells how many bytes there are; one lemma says so for each length.
-/

namespace DocumentSearch.Text.Utf8

/-! ## Single bytes -/

theorem toNat_byte {n : Nat} (h : n < 256) : (UInt8.ofNat n).toNat = n := by
  simp; omega

theorem decodeFrom_whole {byte : UInt8} {c : Char} (h : start byte = .whole c)
    (rest : List UInt8) : decodeFrom none (byte :: rest) = c :: decodeFrom none rest := by
  simp [decodeFrom, h]

theorem decodeFrom_lead {byte : UInt8} {begun : Begun} (h : start byte = .lead begun)
    (rest : List UInt8) : decodeFrom none (byte :: rest) = decodeFrom (some begun) rest := by
  simp [decodeFrom, h]

theorem decodeFrom_last {code low high : Nat} {byte : UInt8}
    (h : low ≤ byte.toNat ∧ byte.toNat ≤ high) (rest : List UInt8) :
    decodeFrom (some ⟨code, 0, low, high⟩) (byte :: rest)
      = Char.ofNat (code * 64 + byte.toNat % 64) :: decodeFrom none rest := by
  simp [decodeFrom, h]

theorem decodeFrom_inner {code more low high : Nat} {byte : UInt8}
    (h : low ≤ byte.toNat ∧ byte.toNat ≤ high) (rest : List UInt8) :
    decodeFrom (some ⟨code, more + 1, low, high⟩) (byte :: rest)
      = decodeFrom (some ⟨code * 64 + byte.toNat % 64, more, 0x80, 0xBF⟩) rest := by
  simp [decodeFrom, h]

/-! ## Whole characters -/

theorem decodeFrom_two {v : Nat} (hlow : 0x80 ≤ v) (hhigh : v < 0x800) (rest : List UInt8) :
    decodeFrom none (UInt8.ofNat (v / 64 % 32 + 192) :: UInt8.ofNat (v % 64 + 128) :: rest)
      = Char.ofNat v :: decodeFrom none rest := by
  have hbegin : start (UInt8.ofNat (v / 64 % 32 + 192)) = .lead ⟨v / 64, 0, 0x80, 0xBF⟩ := by
    simp only [start, toNat_byte (show v / 64 % 32 + 192 < 256 by omega)]
    rw [if_neg (by omega), if_neg (by omega), if_pos (by omega),
      show v / 64 % 32 + 192 - 192 = v / 64 by omega]
  have hsecond := toNat_byte (show v % 64 + 128 < 256 by omega)
  rw [decodeFrom_lead hbegin, decodeFrom_last (by omega), hsecond,
    show v / 64 * 64 + (v % 64 + 128) % 64 = v by omega]

/-- The second byte of a character of three bytes lies in the range that the first one sets. -/
theorem start_three {v : Nat} (hlow : 0x800 ≤ v) (hhigh : v < 0x10000)
    (hvalid : v < 0xD800 ∨ 0xDFFF < v) :
    ∃ least most, start (UInt8.ofNat (v / 4096 % 16 + 224)) = .lead ⟨v / 4096, 1, least, most⟩
      ∧ least ≤ v / 64 % 64 + 128 ∧ v / 64 % 64 + 128 ≤ most := by
  simp only [start, toNat_byte (show v / 4096 % 16 + 224 < 256 by omega),
    show v / 4096 % 16 + 224 - 224 = v / 4096 by omega]
  rw [if_neg (by omega), if_neg (by omega), if_neg (by omega)]
  split
  · exact ⟨_, _, rfl, by omega, by omega⟩
  · split
    · exact ⟨_, _, rfl, by omega, by omega⟩
    · rw [if_pos (by omega)]
      exact ⟨_, _, rfl, by omega, by omega⟩

theorem decodeFrom_three {v : Nat} (hlow : 0x800 ≤ v) (hhigh : v < 0x10000)
    (hvalid : v < 0xD800 ∨ 0xDFFF < v) (rest : List UInt8) :
    decodeFrom none (UInt8.ofNat (v / 4096 % 16 + 224) :: UInt8.ofNat (v / 64 % 64 + 128)
        :: UInt8.ofNat (v % 64 + 128) :: rest)
      = Char.ofNat v :: decodeFrom none rest := by
  obtain ⟨least, most, hbegin, hleast, hmost⟩ := start_three hlow hhigh hvalid
  have hsecond := toNat_byte (show v / 64 % 64 + 128 < 256 by omega)
  have hthird := toNat_byte (show v % 64 + 128 < 256 by omega)
  rw [decodeFrom_lead hbegin, decodeFrom_inner (by omega), decodeFrom_last (by omega), hsecond,
    hthird]
  rw [show (v / 4096 * 64 + (v / 64 % 64 + 128) % 64) * 64 + (v % 64 + 128) % 64 = v by omega]

/-- The second byte of a character of four bytes lies in the range that the first one sets. -/
theorem start_four {v : Nat} (hlow : 0x10000 ≤ v) (hhigh : v < 0x110000) :
    ∃ least most, start (UInt8.ofNat (v / 262144 % 8 + 240)) = .lead ⟨v / 262144, 2, least, most⟩
      ∧ least ≤ v / 4096 % 64 + 128 ∧ v / 4096 % 64 + 128 ≤ most := by
  simp only [start, toNat_byte (show v / 262144 % 8 + 240 < 256 by omega),
    show v / 262144 % 8 + 240 - 240 = v / 262144 by omega]
  rw [if_neg (by omega), if_neg (by omega), if_neg (by omega), if_neg (by omega),
    if_neg (by omega), if_neg (by omega)]
  split
  · exact ⟨_, _, rfl, by omega, by omega⟩
  · split
    · exact ⟨_, _, rfl, by omega, by omega⟩
    · rw [if_pos (by omega)]
      exact ⟨_, _, rfl, by omega, by omega⟩

theorem decodeFrom_four {v : Nat} (hlow : 0x10000 ≤ v) (hhigh : v < 0x110000)
    (rest : List UInt8) :
    decodeFrom none (UInt8.ofNat (v / 262144 % 8 + 240) :: UInt8.ofNat (v / 4096 % 64 + 128)
        :: UInt8.ofNat (v / 64 % 64 + 128) :: UInt8.ofNat (v % 64 + 128) :: rest)
      = Char.ofNat v :: decodeFrom none rest := by
  obtain ⟨least, most, hbegin, hleast, hmost⟩ := start_four hlow hhigh
  have hsecond := toNat_byte (show v / 4096 % 64 + 128 < 256 by omega)
  have hthird := toNat_byte (show v / 64 % 64 + 128 < 256 by omega)
  have hfourth := toNat_byte (show v % 64 + 128 < 256 by omega)
  rw [decodeFrom_lead hbegin, decodeFrom_inner (by omega), decodeFrom_inner (by omega),
    decodeFrom_last (by omega), hsecond, hthird, hfourth]
  rw [show ((v / 262144 * 64 + (v / 4096 % 64 + 128) % 64) * 64 + (v / 64 % 64 + 128) % 64) * 64
      + (v % 64 + 128) % 64 = v by omega]

/-- The bytes of a character are read as that character. -/
theorem decodeFrom_utf8EncodeChar (c : Char) (rest : List UInt8) :
    decodeFrom none (String.utf8EncodeChar c ++ rest) = c :: decodeFrom none rest := by
  have hvalid : c.val.toNat < 0xD800 ∨ 0xDFFF < c.val.toNat ∧ c.val.toNat < 0x110000 := c.valid
  have hwhole : Char.ofNat c.val.toNat = c := Char.ofNat_toNat c
  unfold String.utf8EncodeChar
  dsimp only
  generalize c.val.toNat = v at *
  rw [← hwhole]
  split
  · apply decodeFrom_whole
    rw [start, toNat_byte (by omega), if_pos (by omega)]
  · split
    · exact decodeFrom_two (by omega) (by omega) rest
    · split
      · exact decodeFrom_three (by omega) (by omega) (by omega) rest
      · exact decodeFrom_four (by omega) (by omega) rest

/-! ## Texts -/

/-- Reading the bytes of a text gives the text back. -/
theorem decode_encode (s : String) : decode (encode s) = s := by
  suffices h : ∀ chars : List Char,
      decodeFrom none (chars.flatMap String.utf8EncodeChar) = chars by
    simp [decode, encode, h]
  intro chars
  induction chars with
  | nil => rfl
  | cons c rest ih => rw [List.flatMap_cons, decodeFrom_utf8EncodeChar, ih]

end DocumentSearch.Text.Utf8

import ModelGate.Proofs.Text.ByteOrder
import ModelGate.Text.Glyph

/-!
# Received texts

The bytes of a text are cut into the characters of the text, and no byte is left over
(`ofBytes_utf8Bytes`).  What follows a character has no influence on where it ends, because its first
byte says how many there are.
-/

namespace ModelGate.Glyph

theorem toNat_ofNat_of_lt {n : Nat} (h : n < 256) : (UInt8.ofNat n).toNat = n := by
  rw [UInt8.toNat_ofNat', Nat.mod_eq_of_lt h]

theorem continuation?_ofNat (n : Nat) :
    continuation? (UInt8.ofNat (n % 64 + 128)) = some (n % 64) := by
  have hbyte := toNat_ofNat_of_lt (show n % 64 + 128 < 256 by omega)
  unfold continuation?
  rw [if_pos, hbyte]
  · simp
  · rw [UInt8.le_iff_toNat_le, UInt8.lt_iff_toNat_lt, hbyte]
    exact ⟨Nat.le_add_left 128 _, show n % 64 + 128 < 192 by omega⟩

theorem charWithin?_toNat {low high : Nat} {c : Char} (hlow : low ≤ c.toNat)
    (hhigh : c.toNat ≤ high) : charWithin? low high c.toNat = some c := by
  have hvalid : c.toNat < 0xD800 ∨ 0xDFFF < c.toNat ∧ c.toNat < 0x110000 := c.valid
  unfold charWithin?
  rw [if_pos ⟨hlow, hhigh, by omega⟩, Char.ofNat_toNat]

/-- The bytes of a character are cut off as that character, whatever follows them. -/
theorem leading?_of_utf8EncodeChar {c : Char} {byte : UInt8} {more : List UInt8}
    (h : String.utf8EncodeChar c = byte :: more) (rest : List UInt8) :
    leading? byte (more ++ rest) = some (c, more.length) := by
  have hvalid : c.toNat < 0xD800 ∨ 0xDFFF < c.toNat ∧ c.toNat < 0x110000 := c.valid
  have hcode : c.val.toNat = c.toNat := rfl
  unfold String.utf8EncodeChar at h
  rw [hcode] at h
  dsimp only at h
  -- One case for each number of bytes; the digits to the base 64 make up the code again.
  split_ifs at h with hone htwo hthree
  all_goals
    cases h
    unfold leading?
    dsimp only [List.cons_append, List.nil_append]
  · rw [toNat_ofNat_of_lt (by omega), if_pos (by omega), Char.ofNat_toNat]
    rfl
  · have hcode : (c.toNat / 64 % 32 + 192 - 0xC0) * 64 + c.toNat % 64 = c.toNat := by omega
    rw [toNat_ofNat_of_lt (by omega), if_neg (by omega), continuation?_ofNat]
    simp only [bind, Option.bind_some, hcode, charWithin?_toNat (show 0x80 ≤ c.toNat by omega) htwo]
    rw [if_pos (by omega)]
    rfl
  · have hcode : (c.toNat / 4096 % 16 + 224 - 0xE0) * 4096 +
        (c.toNat / 64 % 64 * 64 + c.toNat % 64) = c.toNat := by omega
    rw [toNat_ofNat_of_lt (by omega), if_neg (by omega), continuation?_ofNat]
    simp only [bind, Option.bind_some, continuation?_ofNat, hcode,
      charWithin?_toNat (show 0x800 ≤ c.toNat by omega) hthree]
    rw [if_neg (by omega), if_pos (by omega)]
    rfl
  · have hcode : (c.toNat / 262144 % 8 + 240 - 0xF0) * 262144 +
        (c.toNat / 4096 % 64 * 64 + c.toNat / 64 % 64) * 64 + c.toNat % 64 = c.toNat := by omega
    rw [toNat_ofNat_of_lt (by omega), if_neg (by omega), continuation?_ofNat]
    simp only [bind, Option.bind_some, continuation?_ofNat, hcode,
      charWithin?_toNat (show 0x10000 ≤ c.toNat by omega) (show c.toNat ≤ 0x10FFFF by omega)]
    rw [if_neg (by omega), if_neg (by omega), if_pos (by omega)]
    rfl

theorem cut_flatMap_utf8EncodeChar (done : List Glyph) (chars : List Char) :
    cut done (chars.flatMap String.utf8EncodeChar) = done.reverse ++ chars.map .char := by
  induction chars generalizing done with
  | nil => simp [cut]
  | cons c chars ih =>
      obtain ⟨byte, more, hbytes⟩ := List.exists_cons_of_ne_nil (@String.utf8EncodeChar_ne_nil c)
      rw [List.flatMap_cons, hbytes, List.cons_append, cut, leading?_of_utf8EncodeChar hbytes]
      dsimp only
      rw [List.drop_left, ih]
      simp

/-- The bytes of a text are cut into its characters. -/
theorem ofBytes_utf8Bytes (text : String) : ofBytes (utf8Bytes text) = ofText text := by
  rw [utf8Bytes_eq_flatMap]
  exact cut_flatMap_utf8EncodeChar [] text.toList

end ModelGate.Glyph

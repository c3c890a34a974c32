import Mathlib

/-!
# The order of texts by their bytes

Texts are compared by their code points here, and by the bytes of their UTF-8 encoding where they are
sorted.  The two orders are the same (`lt_iff_utf8Bytes_lt`): of two characters the one with the
greater code point has the greater encoding, and what follows the characters does not matter, because
no encoding is the beginning of another one.
-/

namespace ModelGate

/-- The bytes of a text. -/
def utf8Bytes (text : String) : List UInt8 :=
  text.toUTF8.data.toList

theorem utf8Bytes_eq_flatMap (text : String) :
    utf8Bytes text = text.toList.flatMap String.utf8EncodeChar := by
  have htext : text.toByteArray = (text.toList.flatMap String.utf8EncodeChar).toByteArray := by
    rw [← List.utf8Encode, ← String.toByteArray_ofList, String.ofList_toList]
  unfold utf8Bytes
  rw [String.toUTF8_eq_toByteArray, htext, List.data_toByteArray]

/-- The order of numbers by their quotients and then by their last digits to the base 64. -/
theorem div_lt_or_mod_lt {m n : Nat} (h : m < n) :
    m / 64 < n / 64 ∨ m / 64 = n / 64 ∧ m % 64 < n % 64 := by
  omega

/-- Whatever comes behind two characters, the bytes of the smaller one come first. -/
theorem utf8EncodeChar_append_lt {c d : Char} (h : c < d) (after after' : List UInt8) :
    String.utf8EncodeChar c ++ after < String.utf8EncodeChar d ++ after' := by
  have hlt : c.val.toNat < d.val.toNat := h
  have hmax : d.val.toNat < 1114112 := by
    have hvalid : d.val.toNat < 55296 ∨ 57343 < d.val.toNat ∧ d.val.toNat < 1114112 := d.valid
    omega
  unfold String.utf8EncodeChar
  generalize c.val.toNat = m at hlt ⊢
  generalize d.val.toNat = n at hlt hmax ⊢
  -- The bytes behind the first one are digits to the base 64.
  have hlast := div_lt_or_mod_lt hlt
  have hthird := @div_lt_or_mod_lt (m / 64) (n / 64)
  have hsecond := @div_lt_or_mod_lt (m / 4096) (n / 4096)
  rw [Nat.div_div_eq_div_mul, Nat.div_div_eq_div_mul] at hthird hsecond
  have hm : m / 262144 < 8 := by omega
  have hn : n / 262144 < 8 := by omega
  dsimp only
  split_ifs <;>
    simp (disch := omega) only [List.cons_append, List.nil_append, List.cons_lt_cons_iff,
      UInt8.lt_iff_toNat_lt, ← UInt8.toNat_inj, UInt8.toNat_ofNat', Nat.mod_eq_of_lt] <;> omega

theorem flatMap_utf8EncodeChar_lt {chars chars' : List Char} (h : chars < chars') :
    chars.flatMap String.utf8EncodeChar < chars'.flatMap String.utf8EncodeChar := by
  -- The induction is on the derivation: characters in common, then a smaller one or none.
  induction List.lex_lt.2 h with
  | @nil d rest =>
      rw [List.flatMap_nil, List.flatMap_cons]
      cases hbytes : String.utf8EncodeChar d with
      | nil => exact absurd hbytes String.utf8EncodeChar_ne_nil
      | cons byte bytes => exact List.nil_lt_cons _ _
  | @rel c rest d rest' hlt =>
      rw [List.flatMap_cons, List.flatMap_cons]
      exact utf8EncodeChar_append_lt hlt _ _
  | @cons c rest rest' hrest ih =>
      rw [List.flatMap_cons, List.flatMap_cons]
      exact List.append_left_lt (ih (List.lex_lt.1 hrest))

/-- Texts are in the order of their bytes. -/
theorem lt_iff_utf8Bytes_lt {s t : String} : s < t ↔ utf8Bytes s < utf8Bytes t := by
  have hforward {a b : String} (h : a < b) : utf8Bytes a < utf8Bytes b := by
    rw [utf8Bytes_eq_flatMap, utf8Bytes_eq_flatMap]
    exact flatMap_utf8EncodeChar_lt (String.lt_iff_toList_lt.1 h)
  refine ⟨hforward, fun h => ?_⟩
  rcases lt_trichotomy s t with hlt | heq | hgt
  · exact hlt
  · rw [heq] at h
    exact absurd h (List.lt_irrefl _)
  · exact absurd h (List.lt_asymm (hforward hgt))

end ModelGate

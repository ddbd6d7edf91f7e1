import Mathlib.Data.List.TakeWhile
import PromptTemplate.Proofs.Json.Parts

/-!
# Integers with too many digits

A JSON text is read by its characters where all its bytes are of ASCII and none is zero (`readBytes_ascii`).
An integer with more digits than the longest numeral is refused for its length, which is not the refusal of a
text that is no JSON (`readBytes_digits`).
-/

namespace PromptTemplate

open Text

namespace Utf8

/-- The code point of a byte of ASCII. -/
def asciiPoint (b : UInt8) : CodePoint := .char (Char.ofNat b.toNat)

theorem decodeFrom_ascii {lenient : Bool} {bs : List UInt8} (h : ∀ b ∈ bs, b < 0x80) (position : Nat) :
    decodeFrom lenient position 0 bs = .ok (bs.map asciiPoint) := by
  induction bs generalizing position with
  | nil => rfl
  | cons b bs ih =>
    obtain ⟨hb, hbs⟩ := List.forall_mem_cons.mp h
    have hpoint : decodePoint lenient b bs = .ok (asciiPoint b, 0) := if_pos hb
    rw [decodeFrom, hpoint]
    dsimp only
    rw [ih hbs]
    rfl

end Utf8

namespace Json

theorem Encoding.detect_ascii {bs : List UInt8} (h : ∀ b ∈ bs, b ≠ 0 ∧ b < 0x80) :
    detect bs = (utf8, bs) := by
  have hmarked : marked? bs = none := by
    unfold marked?
    split <;> simp_all
  have hzeros : ofZeros bs = utf8 := by
    unfold ofZeros
    split <;> simp_all
  rw [detect, hmarked, hzeros]
  rfl

theorem readBytes_ascii {bs : List UInt8} (h : ∀ b ∈ bs, b ≠ 0 ∧ b < 0x80) :
    readBytes bs = read (bs.map Utf8.asciiPoint) := by
  have hdecode : Encoding.utf8.decode? bs = some (bs.map Utf8.asciiPoint) := by
    change (Utf8.decodeFrom true 0 0 bs).toOption = _
    rw [Utf8.decodeFrom_ascii fun b hb => (h b hb).2]
    rfl
  rw [readBytes, Encoding.detect_ascii h]
  dsimp only
  rw [hdecode]

/-! ### Digits -/

section Digits

variable {t : Text}

theorem toNat_of_isDigit {c : CodePoint} (h : c.isDigit = true) : 48 ≤ c.toNat ∧ c.toNat ≤ 57 := by
  cases c with
  | surrogate n => cases h
  | char c =>
    simp only [CodePoint.isDigit, Char.isDigit, ge_iff_le, Bool.and_eq_true, decide_eq_true_eq,
      UInt32.le_iff_toNat_le] at h
    exact h

theorem exists_valueFrom (h : ∀ c ∈ t, c.isDigit = true) (acc : Nat) :
    ∃ n, Numeral.valueFrom 10 acc t = some n := by
  induction t generalizing acc with
  | nil => exact ⟨acc, rfl⟩
  | cons c t ih =>
    obtain ⟨hc, ht⟩ := List.forall_mem_cons.mp h
    obtain ⟨hlo, hhi⟩ := toNat_of_isDigit hc
    have hdigit : Numeral.digit? 10 c = some (c.toNat - 48) := by
      have hlt : c.toNat - 48 < 10 := by omega
      simp [Numeral.digit?, hlo, hhi, hlt]
    obtain ⟨n, hn⟩ := ih ht (acc * 10 + (c.toNat - 48))
    exact ⟨n, by rw [Numeral.valueFrom, hdigit, Option.bind_some, hn]⟩

/-- Digits that do not begin with a zero are the digits before the point, and nothing follows them. -/
theorem number_of_digits (h : ∀ c ∈ t, c.isDigit = true) (hhead : t.head? ≠ some (.char '0'))
    (hlong : Numeral.maxDigits < t.length) : number t = .error (.tooLong t.length) := by
  obtain ⟨n, hn⟩ := exists_valueFrom h 0
  have hne : t ≠ [] := List.ne_nil_of_length_pos (Nat.zero_lt_of_lt hlong)
  have hminus : takeMinus t = (false, t) := by
    unfold takeMinus
    split
    · exact absurd (h _ (List.mem_cons_self ..)) (by decide)
    · rfl
  have hwhole : spanWhole t = (t, []) := by
    unfold spanWhole
    split
    · simp at hhead
    · rw [Numeral.spanDigits, List.takeWhile_eq_self_iff.mpr h, List.dropWhile_eq_nil_iff.mpr h]
  have hvalue : Numeral.toNat? 10 t = some n := by
    rw [Numeral.toNat?, if_neg (by simpa using hne), hn]
  rw [number_eq, hminus, hwhole, numberOf, hvalue]
  exact if_neg (Nat.not_le.mpr hlong)

theorem value_of_digits (h : ∀ c ∈ t, c.isDigit = true) (hhead : t.head? ≠ some (.char '0'))
    (hlong : Numeral.maxDigits < t.length) (fuel room : Nat) :
    value (fuel + 1) room t = .error (.tooLong t.length) := by
  have hword : words.find? (fun w => w.1.isPrefixOf t) = none := by
    refine List.find?_eq_none.mpr fun w hw hpre => ?_
    -- no word begins with a digit
    have hstart : ∀ w ∈ words, ∃ c ∈ w.1.head?, c.isDigit = false := by decide
    obtain ⟨c, hc, hdigit⟩ := hstart w hw
    have hmem := (List.isPrefixOf_iff_prefix.mp hpre).subset (List.mem_of_mem_head? hc)
    simp [h c hmem] at hdigit
  unfold value
  split
  · exact absurd (h _ (List.mem_cons_self ..)) (by decide)
  · exact absurd (h _ (List.mem_cons_self ..)) (by decide)
  · exact absurd (h _ (List.mem_cons_self ..)) (by decide)
  · rw [hword]
    exact number_of_digits h hhead hlong

theorem read_of_digits (h : ∀ c ∈ t, c.isDigit = true) (hhead : t.head? ≠ some (.char '0'))
    (hlong : Numeral.maxDigits < t.length) : read t = .error (.tooLong t.length) := by
  have hskip : skipSpace t = t := by
    cases t with
    | nil => rfl
    | cons c t =>
      obtain ⟨hlo, -⟩ := toNat_of_isDigit (h c (List.mem_cons_self ..))
      refine List.dropWhile_cons_of_neg fun hspace => ?_
      simp only [isSpace, Bool.or_eq_true, decide_eq_true_eq] at hspace
      rcases hspace with ((rfl | rfl) | rfl) | rfl <;> exact absurd hlo (by decide)
  rw [read, hskip, value_of_digits h hhead hlong]

end Digits

theorem asciiPoint_of_digit {b : UInt8} (h : 0x31 ≤ b ∧ b ≤ 0x39) :
    (Utf8.asciiPoint b).isDigit = true ∧ Utf8.asciiPoint b ≠ .char '0' := by
  have hpoint : ∀ n < 0x3A, 0x31 ≤ n →
      (CodePoint.char (Char.ofNat n)).isDigit = true ∧ CodePoint.char (Char.ofNat n) ≠ .char '0' := by decide
  exact hpoint _ (Nat.lt_succ_of_le (UInt8.le_iff_toNat_le.mp h.2)) (UInt8.le_iff_toNat_le.mp h.1)

/-- **An integer with too many digits is refused for its length.** -/
theorem readBytes_digits {bs : List UInt8} (h : ∀ b ∈ bs, 0x31 ≤ b ∧ b ≤ 0x39)
    (hlong : Numeral.maxDigits < bs.length) : readBytes bs = .error (.tooLong bs.length) := by
  have hascii : ∀ b ∈ bs, b ≠ 0 ∧ b < 0x80 := fun b hb => by
    obtain ⟨hlo, hhi⟩ := h b hb
    refine ⟨?_, UInt8.lt_of_le_of_lt hhi (by decide)⟩
    rintro rfl
    exact absurd hlo (by decide)
  have hlength : (bs.map Utf8.asciiPoint).length = bs.length := List.length_map _
  rw [readBytes_ascii hascii, ← hlength]
  refine read_of_digits (fun c hc => ?_) (fun hc => ?_) (hlength ▸ hlong)
  · obtain ⟨b, hb, rfl⟩ := List.mem_map.mp hc
    exact (asciiPoint_of_digit (h b hb)).1
  · obtain ⟨b, hb, heq⟩ := List.mem_map.mp (List.mem_of_mem_head? hc)
    exact (asciiPoint_of_digit (h b hb)).2 heq

end Json

end PromptTemplate

import Mathlib.Algebra.Order.Field.Power
import Mathlib.Data.Rat.Floor
import Mathlib.Tactic.FieldSimp
import Mathlib.Tactic.Linarith
import Mathlib.Tactic.NormNum
import Mathlib.Tactic.Positivity
import Mathlib.Tactic.Ring
import PromptTemplate.Number.Binary64

/-!
# Rounding a quotient

A finite number is a rational one (`toRat?`), and the order of the numbers is the order of these. A quotient up
to one is rounded at the one exponent that suits it (`IsScale`), so quotients that are equal give one number
however they are written (`ofRatio_congr`). No number lies between a quotient and what it is rounded to
(`exists_toRat?_ofRatio`): against a number the two compare alike, that number itself apart
(`lt_ofRatio_iff`), and quotients with small denominators stay in order (`ofRatio_lt_ofRatio_iff`).
-/

namespace PromptTemplate.Binary64

/-! ### Numbers as rational numbers -/

/-- The rational number that a finite number is. -/
def toRat? : Binary64 → Option ℚ
  | finite s m e => some (Numeral.signed s m * 2 ^ e)
  | _ => none

/-- Whether a number lies below a rational one. -/
def IsBelow (q : ℚ) : Binary64 → Prop
  | nan => False
  | infinite s => s = true
  | finite s m e => Numeral.signed s m * 2 ^ e < q

/-- The mantissa and the exponent of a finite number are within their bounds. -/
def InRange : Binary64 → Prop
  | finite _ m e => m < 2 ^ 53 ∧ minExponent ≤ e ∧ e ≤ maxExponent
  | _ => True

theorem signed_mul (s : Bool) (m n : Nat) : Numeral.signed s (m * n) = Numeral.signed s m * n := by
  unfold Numeral.signed
  split <;> push_cast <;> ring

theorem ratio_snd_pos (m : Nat) (e : Int) : 0 < (ratio m e).2 := by
  unfold ratio
  split
  · exact Nat.one_pos
  · exact Nat.two_pow_pos _

theorem zpow_eq_of_nonneg {e : Int} (he : 0 ≤ e) : (2 : ℚ) ^ e = (Nat.pow 2 e.toNat : Nat) := by
  rw [Nat.pow_eq, Nat.cast_pow, Nat.cast_ofNat, ← zpow_natCast, Int.toNat_of_nonneg he]

theorem zpow_eq_of_neg {e : Int} (he : ¬ 0 ≤ e) : (2 : ℚ) ^ e = ((Nat.pow 2 (-e).toNat : Nat) : ℚ)⁻¹ := by
  rw [← zpow_eq_of_nonneg (by omega), zpow_neg, inv_inv]

theorem ratio_eq (s : Bool) (m : Nat) (e : Int) :
    (Numeral.signed s m : ℚ) * 2 ^ e = Numeral.signed s (ratio m e).1 / (ratio m e).2 := by
  unfold ratio
  split
  · rename_i he
    rw [zpow_eq_of_nonneg he, signed_mul]
    push_cast
    rw [div_one]
  · rename_i he
    rw [zpow_eq_of_neg he, div_eq_mul_inv]

theorem lt_finite_iff (s s' : Bool) (m m' : Nat) (e e' : Int) :
    (finite s m e).lt (finite s' m' e') = true ↔
      (Numeral.signed s m : ℚ) * 2 ^ e < Numeral.signed s' m' * 2 ^ e' := by
  have hb : (0 : ℚ) < (ratio m e).2 := Nat.cast_pos.mpr (ratio_snd_pos m e)
  have hd : (0 : ℚ) < (ratio m' e').2 := Nat.cast_pos.mpr (ratio_snd_pos m' e')
  rw [ratio_eq, ratio_eq, div_lt_div_iff₀ hb hd]
  simp only [lt, decide_eq_true_eq, signed_mul]
  exact_mod_cast Iff.rfl

theorem lt_iff_of_toRat? {x y : Binary64} {q r : ℚ} (hx : x.toRat? = some q) (hy : y.toRat? = some r) :
    x.lt y = true ↔ q < r := by
  cases x with
  | nan | infinite => cases hx
  | finite s m e =>
    cases y with
    | nan | infinite => cases hy
    | finite s' m' e' =>
      obtain rfl := Option.some.inj hx
      obtain rfl := Option.some.inj hy
      exact lt_finite_iff s s' m m' e e'

/-- Against a rational number that some finite number is, the order is that of the numbers. -/
theorem lt_iff_isBelow {x y : Binary64} {r : ℚ} (hy : y.toRat? = some r) : x.lt y = true ↔ x.IsBelow r := by
  cases y with
  | nan | infinite => cases hy
  | finite s' m' e' =>
    cases x with
    | nan => simp [lt, IsBelow]
    | infinite s => rfl
    | finite s m e => exact lt_iff_of_toRat? rfl hy

/-! ### Rounding to a whole number -/

theorem roundDiv_mul {k : Nat} (hk : 0 < k) (n d : Nat) : roundDiv (n * k) (d * k) = roundDiv n d := by
  have hlt : ∀ a b : Nat, a * k < b * k ↔ a < b := fun a b => Nat.mul_lt_mul_right hk
  simp only [roundDiv, Nat.mul_div_mul_right n d hk, Nat.mul_mod_mul_right, ← Nat.mul_assoc, hlt]

theorem roundDiv_congr {n d n' d' : Nat} (hd : 0 < d) (hd' : 0 < d') (h : n * d' = n' * d) :
    roundDiv n d = roundDiv n' d' := by
  rw [← roundDiv_mul hd' n d, ← roundDiv_mul hd n' d', h, Nat.mul_comm d d']

/-- A whole number that is not above a quotient is not above what it is rounded to. -/
theorem le_roundDiv {t n d : Nat} (hd : 0 < d) (h : t * d ≤ n) : t ≤ roundDiv n d := by
  have hq : t ≤ n / d := (Nat.le_div_iff_mul_le hd).mpr h
  simp only [roundDiv]
  split_ifs <;> omega

theorem roundDiv_le {t n d : Nat} (hd : 0 < d) (h : n ≤ t * d) : roundDiv n d ≤ t := by
  have hdiv := Nat.div_add_mod n d
  have hmod := Nat.mod_lt n hd
  rcases Nat.lt_or_ge (n / d) t with hq | hq
  · simp only [roundDiv]
    split_ifs <;> omega
  · -- the quotient is the whole number, and nothing is left to be rounded
    have hle : t * d ≤ d * (n / d) := by
      rw [Nat.mul_comm t d]
      exact Nat.mul_le_mul_left d hq
    have hzero : n % d = 0 := by omega
    have hdt : n / d = t := Nat.le_antisymm (Nat.div_le_of_le_mul (by rwa [Nat.mul_comm])) hq
    rw [roundDiv, hzero, if_pos (by omega), hdt]

/-! ### The exponent of a quotient -/

/-- The exponent at which the mantissa of a rational number has all its bits, or the least there is. -/
structure IsScale (q : ℚ) (e : Int) : Prop where
  least : minExponent ≤ e
  lt : q < 2 ^ 53 * 2 ^ e
  full : e = minExponent ∨ 2 ^ 52 * 2 ^ e ≤ q

variable {q : ℚ} {n d : Nat} {e : Int}

theorem zpow_succ (e : Int) : (2 : ℚ) ^ (e + 1) = 2 * 2 ^ e := by
  rw [zpow_add_one₀ (by norm_num), mul_comm]

theorem zpow_le_of_le {e e' : Int} (h : e ≤ e') : (2 : ℚ) ^ e ≤ 2 ^ e' := zpow_le_zpow_right₀ (by norm_num) h

theorem two_zpow_pos (e : Int) : (0 : ℚ) < 2 ^ e := zpow_pos (by norm_num) e

theorem IsScale.le {e e' : Int} (h : IsScale q e) (h' : IsScale q e') : e ≤ e' := by
  by_contra hlt
  have hle : (2 : ℚ) ^ (e' + 1) ≤ 2 ^ e := zpow_le_of_le (by omega)
  rw [zpow_succ] at hle
  rcases h.full with hmin | hfull
  · have := h'.least
    omega
  · have hlt' := h'.lt
    linarith

theorem IsScale.unique {e e' : Int} (h : IsScale q e) (h' : IsScale q e') : e = e' :=
  Int.le_antisymm (h.le h') (h'.le h)

/-- The mantissa of a quotient at an exponent. -/
def mantissaAt (n d : Nat) (e : Int) : Nat := roundDiv (scaled n d e).1 (scaled n d e).2

theorem scaled_snd_pos (hd : 0 < d) (n : Nat) (e : Int) : 0 < (scaled n d e).2 := by
  unfold scaled
  split
  · exact Nat.mul_pos hd (Nat.two_pow_pos _)
  · exact hd

theorem scaled_eq (n d : Nat) (e : Int) :
    ((scaled n d e).1 : ℚ) / (scaled n d e).2 = n / d / 2 ^ e := by
  unfold scaled
  split
  · rename_i he
    rw [zpow_eq_of_nonneg he, Nat.cast_mul, div_div]
  · rename_i he
    rw [zpow_eq_of_neg he, Nat.cast_mul, div_inv_eq_mul, div_mul_eq_mul_div]

theorem mantissaAt_congr {n' d' : Nat} (hd : 0 < d) (hd' : 0 < d') (h : (n : ℚ) / d = n' / d') (e : Int) :
    mantissaAt n d e = mantissaAt n' d' e := by
  have hpos := scaled_snd_pos hd n e
  have hpos' := scaled_snd_pos hd' n' e
  have hscaled := scaled_eq n d e
  rw [h, ← scaled_eq, div_eq_div_iff (by positivity) (by positivity)] at hscaled
  exact roundDiv_congr hpos hpos' (by exact_mod_cast hscaled)

/-- Multiples of the unit at an exponent are kept on their side. -/
theorem le_mantissaAt (hd : 0 < d) {k : Int} (h : k * (2 : ℚ) ^ e ≤ n / d) : k ≤ mantissaAt n d e := by
  rcases lt_or_ge k 0 with hk | hk
  · omega
  obtain ⟨t, rfl⟩ := Int.eq_ofNat_of_zero_le hk
  have hpos : (0 : ℚ) < (scaled n d e).2 := Nat.cast_pos.mpr (scaled_snd_pos hd n e)
  rw [← le_div_iff₀ (two_zpow_pos e), ← scaled_eq, le_div_iff₀ hpos] at h
  exact Int.ofNat_le.mpr (le_roundDiv (scaled_snd_pos hd n e) (by exact_mod_cast h))

theorem mantissaAt_le (hd : 0 < d) {k : Int} (h : (n : ℚ) / d ≤ k * (2 : ℚ) ^ e) : mantissaAt n d e ≤ k := by
  have hpos : (0 : ℚ) < (scaled n d e).2 := Nat.cast_pos.mpr (scaled_snd_pos hd n e)
  rw [← div_le_iff₀ (two_zpow_pos e), ← scaled_eq] at h
  have hk : (0 : ℚ) ≤ k := le_trans (by positivity) h
  obtain ⟨t, rfl⟩ := Int.eq_ofNat_of_zero_le (by exact_mod_cast hk : 0 ≤ k)
  rw [div_le_iff₀ hpos] at h
  exact Int.ofNat_le.mpr (roundDiv_le (scaled_snd_pos hd n e) (by exact_mod_cast h))

theorem div_scaled_lt_iff (hd : 0 < d) (n : Nat) (e : Int) :
    (scaled n d e).1 / (scaled n d e).2 < Nat.pow 2 53 ↔ (n : ℚ) / d < 2 ^ 53 * 2 ^ e := by
  have hpos := scaled_snd_pos hd n e
  rw [Nat.div_lt_iff_lt_mul hpos, ← div_lt_iff₀ (two_zpow_pos e), ← scaled_eq,
    div_lt_iff₀ (Nat.cast_pos.mpr hpos)]
  exact_mod_cast Iff.rfl

/-- The quotient lies between powers of two that the lengths of its terms tell. -/
theorem zpow_log2_bounds (hn : n ≠ 0) (hd : 0 < d) :
    (2 : ℚ) ^ ((n.log2 : Int) - d.log2 - 1) ≤ n / d ∧ (n : ℚ) / d < 2 ^ ((n.log2 : Int) - d.log2 + 1) := by
  have hn_low : (2 : ℚ) ^ (n.log2 : Int) ≤ n := by exact_mod_cast Nat.log2_self_le hn
  have hn_high : (n : ℚ) < 2 ^ ((n.log2 : Int) + 1) := by exact_mod_cast Nat.lt_log2_self (n := n)
  have hd_low : (2 : ℚ) ^ (d.log2 : Int) ≤ d := by exact_mod_cast Nat.log2_self_le (Nat.pos_iff_ne_zero.mp hd)
  have hd_high : (d : ℚ) < 2 ^ ((d.log2 : Int) + 1) := by exact_mod_cast Nat.lt_log2_self (n := d)
  have hpos : (0 : ℚ) < d := Nat.cast_pos.mpr hd
  constructor
  · have hexp : (n.log2 : Int) - d.log2 - 1 = n.log2 - (d.log2 + 1) := by omega
    rw [hexp, zpow_sub₀ (by norm_num)]
    exact div_le_div₀ (by positivity) hn_low hpos hd_high.le
  · have hexp : (n.log2 : Int) - d.log2 + 1 = (n.log2 + 1) - d.log2 := by omega
    rw [hexp, zpow_sub₀ (by norm_num)]
    exact div_lt_div₀ hn_high hd_low (by positivity) (two_zpow_pos _)

/-- The exponent that is chosen for a quotient: the lengths of its terms leave two. -/
def exponentOf (n d : Nat) : Int :=
  let low : Int := max ((n.log2 : Int) - d.log2 - 53) minExponent
  if (scaled n d low).1 / (scaled n d low).2 < Nat.pow 2 53 then low else low + 1

theorem isScale_exponentOf (hn : n ≠ 0) (hd : 0 < d) : IsScale (n / d) (exponentOf n d) := by
  obtain ⟨hlow, hhigh⟩ := zpow_log2_bounds hn hd
  unfold exponentOf
  dsimp only
  generalize hlow' : max ((n.log2 : Int) - d.log2 - 53) minExponent = low
  have hleast : minExponent ≤ low := hlow' ▸ le_max_right _ _
  split
  · rename_i hfits
    refine ⟨hleast, (div_scaled_lt_iff hd n low).mp hfits, ?_⟩
    rcases max_choice ((n.log2 : Int) - d.log2 - 53) minExponent with h | h
    · have hexp : (2 : ℚ) ^ 52 * 2 ^ low = 2 ^ ((n.log2 : Int) - d.log2 - 1) := by
        rw [← zpow_natCast, ← zpow_add₀ (by norm_num)]
        congr 1
        omega
      exact .inr (hexp ▸ hlow)
    · exact .inl (hlow'.symm.trans h)
  · rename_i hfits
    have hge : (2 : ℚ) ^ 53 * 2 ^ low ≤ n / d := le_of_not_gt (mt (div_scaled_lt_iff hd n low).mpr hfits)
    have hexp : (2 : ℚ) ^ 53 * 2 ^ (low + 1) = 2 ^ (low + 54) := by
      rw [← zpow_natCast, ← zpow_add₀ (by norm_num)]
      congr 1
      omega
    refine ⟨by omega, ?_, .inr ?_⟩
    · rw [hexp]
      exact lt_of_lt_of_le hhigh (zpow_le_of_le (by omega))
    · rw [zpow_succ]
      linarith

/-- The number with a mantissa that may be one bit too long. -/
def pack (negative : Bool) (m : Nat) (e : Int) : Binary64 :=
  let (m, e) := if m < Nat.pow 2 53 then (m, e) else (m / 2, e + 1)
  if maxExponent < e then .infinite negative else .finite negative m e

/-- **A quotient is rounded at its exponent.** -/
theorem exists_ofRatio_eq_pack (negative : Bool) (n : Nat) (hd : 0 < d) :
    ∃ e, IsScale (n / d) e ∧ ofRatio negative n d = pack negative (mantissaAt n d e) e := by
  by_cases hn : n = 0
  · subst hn
    refine ⟨minExponent, ⟨le_refl _, ?_, .inl rfl⟩, ?_⟩
    · rw [Nat.cast_zero, zero_div]
      exact mul_pos (by norm_num) (two_zpow_pos _)
    · have hzero : mantissaAt 0 d minExponent = 0 :=
        Nat.le_zero.mp (Int.ofNat_le.mp (mantissaAt_le hd (by simp)))
      rw [hzero, ofRatio, if_pos (.inl rfl)]
      rfl
  · refine ⟨exponentOf n d, isScale_exponentOf hn hd, ?_⟩
    rw [ofRatio, if_neg (by omega)]
    rfl

/-- Equal quotients give one number. -/
theorem ofRatio_congr {n' d' : Nat} (hd : 0 < d) (hd' : 0 < d') (h : (n : ℚ) / d = n' / d') (negative : Bool) :
    ofRatio negative n d = ofRatio negative n' d' := by
  obtain ⟨e, he, heq⟩ := exists_ofRatio_eq_pack negative n hd
  obtain ⟨e', he', heq'⟩ := exists_ofRatio_eq_pack negative n' hd'
  rw [← h] at he'
  obtain rfl := he.unique he'
  rw [heq, heq', mantissaAt_congr hd hd' h]

/-! ### What a quotient is rounded to -/

theorem toRat?_pack {m : Nat} (hm : m ≤ 2 ^ 53) (he : e < maxExponent) :
    (pack false m e).toRat? = some ((m : ℚ) * 2 ^ e) := by
  unfold pack
  dsimp only
  by_cases hlt : m < Nat.pow 2 53
  · rw [if_pos hlt, if_neg (by omega)]
    rfl
  · obtain rfl : m = 2 ^ 53 := Nat.le_antisymm hm (Nat.le_of_not_lt hlt)
    rw [if_neg hlt, if_neg (by omega)]
    refine congrArg some ?_
    rw [zpow_succ]
    norm_num [Numeral.signed]
    ring

/-- A number is a multiple of the unit at an exponent, or so small that it has more bits than fit there. -/
theorem exists_mul_zpow_or_abs_lt {x : Binary64} {t : ℚ} (hx : x.InRange) (ht : x.toRat? = some t)
    (e : Int) : (∃ k : Int, t = k * 2 ^ e) ∨ minExponent < e ∧ |t| < 2 ^ 52 * 2 ^ e := by
  cases x with
  | nan | infinite => cases ht
  | finite s m j =>
    obtain rfl := Option.some.inj ht
    obtain ⟨hm, hj, -⟩ := hx
    rcases le_or_gt e j with hle | hlt
    · refine .inl ⟨Numeral.signed s m * 2 ^ (j - e).toNat, ?_⟩
      have hexp : (2 : ℚ) ^ j = 2 ^ (j - e).toNat * 2 ^ e := by
        rw [← zpow_natCast, Int.toNat_of_nonneg (by omega), ← zpow_add₀ (by norm_num), sub_add_cancel]
      rw [hexp]
      push_cast
      ring
    · refine .inr ⟨by omega, ?_⟩
      have habs : |(Numeral.signed s m : ℚ)| = m := by
        unfold Numeral.signed
        split <;> simp
      have hunit : 2 * (2 : ℚ) ^ j ≤ 2 ^ e := zpow_succ j ▸ zpow_le_of_le hlt
      have hm' : (m : ℚ) < 2 ^ 53 := by exact_mod_cast hm
      rw [abs_mul, habs, abs_of_pos (two_zpow_pos j)]
      calc (m : ℚ) * 2 ^ j < 2 ^ 53 * 2 ^ j := mul_lt_mul_of_pos_right hm' (two_zpow_pos j)
        _ = 2 ^ 52 * (2 * 2 ^ j) := by ring
        _ ≤ 2 ^ 52 * 2 ^ e := by gcongr

/-- **No number lies between a quotient and what it is rounded to.** -/
theorem exists_toRat?_ofRatio (hd : 0 < d) (hle : n ≤ d) :
    ∃ r, (ofRatio false n d).toRat? = some r ∧ ∀ (x : Binary64) (t : ℚ), x.InRange → x.toRat? = some t →
      (t ≤ n / d → t ≤ r) ∧ ((n : ℚ) / d ≤ t → r ≤ t) := by
  obtain ⟨e, he, heq⟩ := exists_ofRatio_eq_pack false n hd
  have hone : (n : ℚ) / d ≤ 1 := div_le_one_of_le₀ (by exact_mod_cast hle) (by positivity)
  have hsmall : e < maxExponent := by
    rcases he.full with rfl | hfull
    · decide
    · by_contra hge
      have hmax : 0 ≤ maxExponent := by decide
      have hunit : (2 : ℚ) ^ (0 : Int) ≤ 2 ^ e := zpow_le_of_le (hmax.trans (not_lt.mp hge))
      rw [zpow_zero] at hunit
      linarith
  have hm : mantissaAt n d e ≤ 2 ^ 53 := by
    have h : (mantissaAt n d e : Int) ≤ (2 ^ 53 : Int) :=
      mantissaAt_le hd (le_trans he.lt.le (by push_cast; exact le_refl _))
    exact_mod_cast h
  refine ⟨(mantissaAt n d e : ℚ) * 2 ^ e, by rw [heq, toRat?_pack hm hsmall], fun x t hx ht => ?_⟩
  rcases exists_mul_zpow_or_abs_lt hx ht e with ⟨k, rfl⟩ | ⟨hmin, habs⟩
  · constructor
    · intro h
      exact mul_le_mul_of_nonneg_right (by exact_mod_cast le_mantissaAt hd h) (two_zpow_pos e).le
    · intro h
      exact mul_le_mul_of_nonneg_right (by exact_mod_cast mantissaAt_le hd h) (two_zpow_pos e).le
  · -- the number is below all numbers at this exponent
    have hfull : (2 : ℚ) ^ 52 * 2 ^ e ≤ n / d := he.full.resolve_left (by omega)
    have hbits : (2 ^ 52 : Int) ≤ mantissaAt n d e := le_mantissaAt hd (by exact_mod_cast hfull)
    have ht' := lt_of_abs_lt habs
    constructor
    · intro _
      refine ht'.le.trans (mul_le_mul_of_nonneg_right ?_ (two_zpow_pos e).le)
      exact_mod_cast hbits
    · intro h
      linarith

/-- Below what a quotient is rounded to lie the numbers below the quotient, that number itself apart. -/
theorem lt_ofRatio_iff (hd : 0 < d) (hle : n ≤ d) {x : Binary64} (hx : x.InRange) :
    x.lt (ofRatio false n d) = true ↔ x.IsBelow (n / d) ∧ x.toRat? ≠ (ofRatio false n d).toRat? := by
  obtain ⟨r, hr, hnearest⟩ := exists_toRat?_ofRatio hd hle
  rw [lt_iff_isBelow hr, hr]
  cases x with
  | nan | infinite => simp [IsBelow, toRat?]
  | finite s m e =>
    obtain ⟨hbelow, habove⟩ := hnearest _ _ hx rfl
    simp only [IsBelow, toRat?, ne_eq, Option.some.injEq]
    constructor
    · intro h
      exact ⟨lt_of_not_ge fun hge => absurd (habove hge) (not_le.mpr h), h.ne⟩
    · rintro ⟨h, hne⟩
      exact lt_of_le_of_ne (hbelow h.le) hne

/-- Two numbers lie between quotients that are far enough apart. -/
theorem exists_two_between {q q' : ℚ} (hq : 0 ≤ q) (hq' : q' ≤ 1) (hgap : q + 1 / 2 ^ 44 ≤ q') :
    ∃ (x y : Binary64) (t u : ℚ), (x.InRange ∧ x.toRat? = some t) ∧ (y.InRange ∧ y.toRat? = some u) ∧
      q ≤ t ∧ t < u ∧ u ≤ q' := by
  let k := ⌊q * 2 ^ 50⌋₊
  have hfloor : (k : ℚ) ≤ q * 2 ^ 50 := Nat.floor_le (by positivity)
  have hceil : q * 2 ^ 50 < k + 1 := Nat.lt_floor_add_one _
  have hsize : (k : ℚ) + 2 ≤ 2 ^ 50 := by linarith
  replace hsize : k + 2 ≤ 2 ^ 50 := by exact_mod_cast hsize
  have hrange : ∀ m ≤ 2 ^ 50, (finite false m (-50)).InRange := fun m hm =>
    ⟨lt_of_le_of_lt hm (by norm_num), by decide, by decide⟩
  have hunit : (2 : ℚ) ^ (-50 : Int) = 1 / 2 ^ 50 := by norm_num
  refine ⟨finite false (k + 1) (-50), finite false (k + 2) (-50), (k + 1 : Nat) * 2 ^ (-50 : Int),
    (k + 2 : Nat) * 2 ^ (-50 : Int), ⟨hrange _ (by omega), rfl⟩, ⟨hrange _ hsize, rfl⟩, ?_, ?_, ?_⟩
  all_goals
    rw [hunit]
    push_cast
    linarith

theorem ofRatio_lt_of_lt {n' d' : Nat} (hd : 0 < d) (hd' : 0 < d') (hle : n ≤ d) (hle' : n' ≤ d')
    (hsize : d ≤ 2 ^ 22) (hsize' : d' ≤ 2 ^ 22) (h : (n : ℚ) / d < n' / d') :
    (ofRatio false n d).lt (ofRatio false n' d') = true := by
  obtain ⟨r, hr, hnearest⟩ := exists_toRat?_ofRatio hd hle
  obtain ⟨r', hr', hnearest'⟩ := exists_toRat?_ofRatio hd' hle'
  have hone : (n' : ℚ) / d' ≤ 1 := div_le_one_of_le₀ (by exact_mod_cast hle') (by positivity)
  have hgap : (n : ℚ) / d + 1 / 2 ^ 44 ≤ n' / d' := by
    -- distinct quotients are one part in the product of the denominators apart
    have hcross : n * d' + 1 ≤ n' * d := by
      rw [div_lt_div_iff₀ (by positivity) (by positivity)] at h
      exact_mod_cast h
    have hprod : d * d' ≤ 2 ^ 22 * 2 ^ 22 := Nat.mul_le_mul hsize hsize'
    have hunit : (1 : ℚ) / 2 ^ 44 ≤ 1 / (d * d') := by
      refine one_div_le_one_div_of_le (by positivity) ?_
      exact_mod_cast hprod
    have hcross' : (n : ℚ) * d' + 1 ≤ n' * d := by exact_mod_cast hcross
    calc (n : ℚ) / d + 1 / 2 ^ 44 ≤ n / d + 1 / (d * d') := by gcongr
      _ = (n * d' + 1) / (d * d') := by field_simp
      _ ≤ n' * d / (d * d') := by gcongr
      _ = n' / d' := by field_simp
  obtain ⟨x, y, t, u, ⟨hx, ht⟩, ⟨hy, hu⟩, hqt, htu, huq⟩ := exists_two_between (by positivity) hone hgap
  have hrt : r ≤ t := (hnearest x t hx ht).2 hqt
  have hur : u ≤ r' := (hnearest' y u hy hu).1 huq
  exact (lt_iff_of_toRat? hr hr').mpr (by linarith)

/-- **Quotients with small denominators stay in order** when they are rounded. -/
theorem ofRatio_lt_ofRatio_iff {n' d' : Nat} (hd : 0 < d) (hd' : 0 < d') (hle : n ≤ d) (hle' : n' ≤ d')
    (hsize : d ≤ 2 ^ 22) (hsize' : d' ≤ 2 ^ 22) :
    (ofRatio false n d).lt (ofRatio false n' d') = true ↔ (n : ℚ) / d < n' / d' := by
  refine ⟨fun h => ?_, ofRatio_lt_of_lt hd hd' hle hle' hsize hsize'⟩
  obtain ⟨r, hr, -⟩ := exists_toRat?_ofRatio hd hle
  obtain ⟨r', hr', -⟩ := exists_toRat?_ofRatio hd' hle'
  have hlt := (lt_iff_of_toRat? hr hr').mp h
  by_contra hge
  rcases (not_lt.mp hge).eq_or_lt with heq | hgt
  · rw [ofRatio_congr hd' hd heq false, hr] at hr'
    exact hlt.ne (Option.some.inj hr')
  · have hlt' := (lt_iff_of_toRat? hr' hr).mp (ofRatio_lt_of_lt hd' hd hle' hle hsize' hsize hgt)
    exact lt_asymm hlt hlt'

end PromptTemplate.Binary64

/-
  Which integer an amount becomes.

  * `IsNearestEven`: the integer nearest to a number, an exact half going to the even one;
    `IsNearestEven.unique`: there is at most one.
  * `Decimal96.units`: a decimal, counted in units with a number of places. The decimals of
    doubles are rounded to such a count (`isNearestEven_units`).
  * `Decimal96.Wraps`: the power of ten that is left behind the rounding is no word, and what is
    left of it in a word lets the product pass for one.
  * `toFixedPoint_nearest`: an amount becomes the nearest count of units, or overflows, unless the
    power wraps; then it becomes that count reduced to a word.
  * `toNat_gweiToWei_lt`, `gweiToWeiPrice_eq`: prices in Gwei stay far below all of this.
-/
import NodeFleet.Error
import Mathlib.Algebra.Order.Field.Rat
import Mathlib.Algebra.Order.Field.Power
import Mathlib.Tactic.FieldSimp
import Mathlib.Tactic.Linarith

namespace NodeFleet

/-! ## Nearest integers -/

/-- The integer nearest to a number, an exact half going to the even one. -/
structure IsNearestEven (q : ℚ) (n : ℕ) : Prop where
  near : |q - n| ≤ 1 / 2
  even_of_half : |q - n| = 1 / 2 → Even n

namespace IsNearestEven

theorem natCast (n : ℕ) : IsNearestEven n n where
  near := by norm_num
  even_of_half h := by norm_num at h

/-- Neighbours that are equally near are not both even. -/
theorem le {q : ℚ} {m n : ℕ} (hm : IsNearestEven q m) (hn : IsNearestEven q n) : n ≤ m := by
  by_contra hlt
  have hstep : (m : ℚ) + 1 ≤ n := by exact_mod_cast not_le.1 hlt
  have hlow := (abs_le.1 hm.near).2
  have hhigh := (abs_le.1 hn.near).1
  have hhalf : q = m + 1 / 2 := by linarith
  have hnext : (n : ℚ) = ((m + 1 : ℕ) : ℚ) := by push_cast; linarith
  have hsucc : n = m + 1 := by exact_mod_cast hnext
  have heven : Even m := hm.even_of_half (by rw [hhalf]; norm_num)
  have heven' : Even (m + 1) := by
    rw [← hsucc]
    exact hn.even_of_half (by rw [hhalf, hnext]; push_cast; norm_num)
  exact (Nat.even_add_one.1 heven') heven

theorem unique {q : ℚ} {m n : ℕ} (hm : IsNearestEven q m) (hn : IsNearestEven q n) : m = n :=
  (hn.le hm).antisymm (hm.le hn)

/-- The nearest integer to a ratio, told without dividing. -/
theorem of_mul {num den n : ℕ} (hden : 0 < den) (hlow : 2 * (n * den) ≤ 2 * num + den)
    (hhigh : 2 * num ≤ 2 * (n * den) + den)
    (heven : 2 * (n * den) = 2 * num + den ∨ 2 * num = 2 * (n * den) + den → Even n) :
    IsNearestEven (num / den) n := by
  have hpos : (0 : ℚ) < den := by exact_mod_cast hden
  have hdistance : (num : ℚ) / den - n = (num - n * den) / den := by field_simp
  constructor
  · have hlow' : 2 * ((n : ℚ) * den) ≤ 2 * num + den := by exact_mod_cast hlow
    have hhigh' : (2 : ℚ) * num ≤ 2 * (n * den) + den := by exact_mod_cast hhigh
    rw [hdistance, abs_le, le_div_iff₀ hpos, div_le_iff₀ hpos]
    constructor <;> linarith
  · intro hhalf
    refine heven ?_
    rw [hdistance] at hhalf
    rcases eq_or_eq_neg_of_abs_eq hhalf with h | h <;> rw [div_eq_iff hpos.ne'] at h
    · refine Or.inr ?_
      have : (2 : ℚ) * num = 2 * (n * den) + den := by linarith
      exact_mod_cast this
    · refine Or.inl ?_
      have : 2 * ((n : ℚ) * den) = 2 * num + den := by linarith
      exact_mod_cast this

end IsNearestEven

namespace Binary64

theorem isNearestEven_roundEven (num : ℕ) {den : ℕ} (hden : 0 < den) :
    IsNearestEven (num / den) (roundEven num den) := by
  have hsplit : num = num / den * den + num % den := by rw [Nat.div_add_mod']
  have hrest := Nat.mod_lt num hden
  simp only [roundEven]
  split
  · next hup =>
    have hnext : (num / den + 1) * den = num / den * den + den := Nat.succ_mul _ _
    refine .of_mul hden (by omega) (by omega) fun hhalf => ?_
    have hodd : num / den % 2 = 1 := by omega
    exact Nat.even_iff.2 (by omega)
  · next hdown =>
    refine .of_mul hden (by omega) (by omega) fun hhalf => ?_
    exact Nat.even_iff.2 (by omega)

theorem roundEven_le (num : ℕ) {den : ℕ} (hden : 0 < den) : roundEven num den ≤ num := by
  have hsplit : num = num / den * den + num % den := by rw [Nat.div_add_mod']
  have hrest := Nat.mod_lt num hden
  have hquotient : num / den ≤ num / den * den := Nat.le_mul_of_pos_right _ hden
  simp only [roundEven]
  split <;> omega

end Binary64

/-! ## Rounded decimals -/

namespace Decimal96

/-- A decimal, counted in units with a number of places. -/
def units (d : Decimal96) (places : ℕ) : ℚ := d.significand * 10 ^ ((places : ℤ) - d.scale)

variable (d : Decimal96) (places : ℕ)

theorem scale_roundTo_le : (d.roundTo places).scale ≤ places := by
  unfold roundTo
  split
  · assumption
  · exact le_rfl

theorem sub_scale_roundTo : places - (d.roundTo places).scale = places - d.scale := by
  unfold roundTo
  split
  · rfl
  · simp only
    omega

theorem significand_roundTo_le : (d.roundTo places).significand ≤ d.significand := by
  unfold roundTo
  split
  · exact le_rfl
  · exact Binary64.roundEven_le _ (tenTo_pos _)

/-- The count of units that a decimal is rounded to. -/
def roundedUnits : ℕ := (d.roundTo places).significand * 10 ^ (places - d.scale)

/-- **Rounding to a number of places gives the nearest count of units.** -/
theorem isNearestEven_units : IsNearestEven (d.units places) (d.roundedUnits places) := by
  unfold units roundedUnits roundTo
  split
  · next hfew =>
    have hpower : (10 : ℚ) ^ ((places : ℤ) - d.scale) = ((10 ^ (places - d.scale) : ℕ) : ℚ) := by
      rw [← Nat.cast_sub hfew, zpow_natCast]
      push_cast
      rfl
    rw [hpower, ← Nat.cast_mul]
    exact .natCast _
  · next hmany =>
    have hle : places ≤ d.scale := by omega
    have hpower : (10 : ℚ) ^ ((places : ℤ) - d.scale) = ((tenTo (d.scale - places) : ℕ) : ℚ)⁻¹ := by
      rw [← neg_sub, zpow_neg, ← Nat.cast_sub hle, zpow_natCast]
      show _ = ((10 ^ (d.scale - places) : ℕ) : ℚ)⁻¹
      push_cast
      rfl
    rw [hpower, ← div_eq_mul_inv, Nat.sub_eq_zero_of_le hle, pow_zero, mul_one]
    exact Binary64.isNearestEven_roundEven _ (tenTo_pos _)

/-- The power of ten behind the rounding is no word, and its rest in a word makes a product that
    is one. -/
def Wraps : Prop :=
  78 ≤ places - d.scale ∧ d.significand ≠ 0 ∧
    d.significand * (10 ^ (places - d.scale) % 2 ^ 256) < 2 ^ 256

variable {d places}

theorem roundedUnits_of_wide (h : 78 ≤ places - d.scale) :
    d.roundedUnits places = d.significand * 10 ^ (places - d.scale) := by
  rw [roundedUnits, roundTo, if_pos (by omega)]

theorem le_roundedUnits_of_wide (h : 78 ≤ places - d.scale) (hpos : d.significand ≠ 0) :
    2 ^ 256 ≤ d.roundedUnits places := by
  rw [roundedUnits_of_wide h]
  calc
    2 ^ 256 ≤ 10 ^ 78 := by norm_num
    _ ≤ 10 ^ (places - d.scale) := Nat.pow_le_pow_right (by norm_num) h
    _ ≤ d.significand * 10 ^ (places - d.scale) :=
      Nat.le_mul_of_pos_left _ (Nat.pos_of_ne_zero hpos)

end Decimal96

/-! ## Amounts -/

namespace Units

open Decimal96

/-- A count of units as a word; one that is too large overflows. -/
def asWord (x : Binary64) (decimals : UInt8) (n : ℕ) : Result Word :=
  if n < 2 ^ 256 then .ok (BitVec.ofNat 256 n)
  else .error (.overflow (.amount (.tooLarge x decimals.toNat)))

variable {x : Binary64} {d : Decimal96} {decimals : UInt8}

theorem toFixedPoint_eq (hfinite : x.isFinite = true) (hsign : x.isNegative = false)
    (hd : ofBinary64? x = some d) (decimals : UInt8) :
    (toFixedPoint x decimals).mapError Error.ofAmount =
      asWord x decimals ((d.roundTo decimals.toNat).significand *
        (10 ^ (decimals.toNat - d.scale) % 2 ^ 256)) := by
  simp only [toFixedPoint, hfinite, hsign, hd, sub_scale_roundTo, asWord]
  show Except.mapError _ (if _ * (10 ^ _ % 2 ^ 256) < 2 ^ 256 then _ else _) = _
  split <;> rfl

theorem toFixedPoint_of_wraps (hfinite : x.isFinite = true) (hsign : x.isNegative = false)
    (hd : ofBinary64? x = some d) (hwraps : d.Wraps decimals.toNat) :
    (toFixedPoint x decimals).mapError Error.ofAmount =
      .ok (BitVec.ofNat 256 (d.roundedUnits decimals.toNat)) := by
  obtain ⟨hwide, -, hfits⟩ := hwraps
  rw [toFixedPoint_eq hfinite hsign hd, roundedUnits_of_wide hwide, roundTo, if_pos (by omega),
    asWord, if_pos hfits]
  refine congrArg _ (BitVec.eq_of_toNat_eq ?_)
  simp only [BitVec.toNat_ofNat, Nat.mul_mod_mod]

theorem toFixedPoint_of_not_wraps (hfinite : x.isFinite = true) (hsign : x.isNegative = false)
    (hd : ofBinary64? x = some d) (hwraps : ¬d.Wraps decimals.toNat) :
    (toFixedPoint x decimals).mapError Error.ofAmount =
      asWord x decimals (d.roundedUnits decimals.toNat) := by
  rw [toFixedPoint_eq hfinite hsign hd]
  by_cases hwide : 78 ≤ decimals.toNat - d.scale
  · rw [roundedUnits_of_wide hwide, roundTo, if_pos (by omega)]
    by_cases hzero : d.significand = 0
    · rw [hzero, zero_mul, zero_mul]
    · -- Both products are too large for a word.
      have htotal := le_roundedUnits_of_wide hwide hzero
      rw [roundedUnits_of_wide hwide] at htotal
      have hrest : ¬d.significand * (10 ^ (decimals.toNat - d.scale) % 2 ^ 256) < 2 ^ 256 :=
        fun h => hwraps ⟨hwide, hzero, h⟩
      rw [asWord, asWord, if_neg hrest, if_neg htotal.not_gt]
  · have hpower : 10 ^ (decimals.toNat - d.scale) < 2 ^ 256 :=
      calc
        10 ^ (decimals.toNat - d.scale) ≤ 10 ^ 77 := Nat.pow_le_pow_right (by norm_num) (by omega)
        _ < 2 ^ 256 := by norm_num
    rw [Nat.mod_eq_of_lt hpower, roundedUnits]

/-- **Which integer an amount becomes.** The decimal of an amount fits, its rounding leaves no
    place over, and there is one nearest count of units, an exact half going to the even one. The
    amount becomes this count, or overflows if it is no word, unless the power of ten behind the
    rounding wraps: then the count is no word, and the amount becomes its rest in a word. -/
theorem toFixedPoint_nearest (hfinite : x.isFinite = true) (hsign : x.isNegative = false)
    (decimals : UInt8) :
    (ofBinary64? x = none →
      (toFixedPoint x decimals).mapError Error.ofAmount = .error (.overflow (.amount (.outOfRange x)))) ∧
    ∀ d, ofBinary64? x = some d →
      d.significand < 2 ^ 96 ∧ d.scale ≤ 28 ∧
      (d.roundTo decimals.toNat).scale ≤ decimals.toNat ∧
      ∃ n, (∀ k, IsNearestEven (d.units decimals.toNat) k ↔ k = n) ∧
        ((toFixedPoint x decimals).mapError Error.ofAmount = asWord x decimals n ↔
          ¬d.Wraps decimals.toNat) ∧
        (d.Wraps decimals.toNat → 2 ^ 256 ≤ n ∧
          (toFixedPoint x decimals).mapError Error.ofAmount = .ok (BitVec.ofNat 256 n)) := by
  refine ⟨fun hnone => ?_, fun d hd => ?_⟩
  · simp only [toFixedPoint, hfinite, hsign, hnone]
    rfl
  have hfits := fits_of_ofBinary64? hd
  have hnearest := d.isNearestEven_units decimals.toNat
  have hwrapped (hwraps : d.Wraps decimals.toNat) := toFixedPoint_of_wraps hfinite hsign hd hwraps
  have hlarge (hwraps : d.Wraps decimals.toNat) := le_roundedUnits_of_wide hwraps.1 hwraps.2.1
  refine ⟨hfits.significand_lt, hfits.scale_le, d.scale_roundTo_le _, d.roundedUnits _,
    fun k => ⟨fun hk => hk.unique hnearest, fun hk => hk ▸ hnearest⟩, ⟨?_, ?_⟩,
    fun hwraps => ⟨hlarge hwraps, hwrapped hwraps⟩⟩
  · intro hexact hwraps
    rw [hwrapped hwraps, asWord, if_neg (hlarge hwraps).not_gt] at hexact
    cases hexact
  · exact toFixedPoint_of_not_wraps hfinite hsign hd

/-- Two and a half, as a count without places: the even neighbour. -/
theorem toFixedPoint_nearest_of_half :
    let x : Binary64 := ⟨0x4004000000000000⟩
    IsNearestEven (units ⟨25, 1⟩ 0) 2 ∧ (toFixedPoint x 0).mapError Error.ofAmount = asWord x 0 2 := by
  intro x
  obtain ⟨-, hdecimal⟩ := toFixedPoint_nearest (x := x) (by decide +kernel) (by decide +kernel) 0
  obtain ⟨-, -, -, n, hnearest, hexact, -⟩ := hdecimal ⟨25, 1⟩ (by decide +kernel)
  have hunits := isNearestEven_units ⟨25, 1⟩ 0
  have htwo : n = 2 := ((hnearest _).1 hunits).symm.trans (by decide +kernel)
  subst htwo
  exact ⟨(hnearest 2).2 rfl, hexact.2 fun hwraps => absurd hwraps.1 (by decide)⟩

/-- One, with 78 places: every nearest count is too large for a word, and yet there is no
    overflow but a word. -/
theorem toFixedPoint_reduces :
    let x : Binary64 := ⟨0x3FF0000000000000⟩
    x.isFinite = true ∧ x.isNegative = false ∧ ∃ d, ofBinary64? x = some d ∧
      (∀ n, IsNearestEven (d.units 78) n → 2 ^ 256 ≤ n) ∧
      (toFixedPoint x 78).mapError Error.ofAmount = .ok (BitVec.ofNat 256 (10 ^ 78)) := by
  intro x
  have hfinite : x.isFinite = true := by decide +kernel
  have hsign : x.isNegative = false := by decide +kernel
  have hd : ofBinary64? x = some ⟨1, 0⟩ := by decide +kernel
  have hwraps : (⟨1, 0⟩ : Decimal96).Wraps 78 := ⟨le_rfl, one_ne_zero, by norm_num⟩
  refine ⟨hfinite, hsign, ⟨1, 0⟩, hd, fun n hn => ?_, ?_⟩
  · rw [hn.unique (isNearestEven_units _ _)]
    exact le_roundedUnits_of_wide hwraps.1 hwraps.2.1
  · have hunits : (⟨1, 0⟩ : Decimal96).roundedUnits 78 = 10 ^ 78 := by
      rw [roundedUnits_of_wide hwraps.1]
      exact one_mul _
    rw [← hunits]
    exact toFixedPoint_of_wraps hfinite hsign hd hwraps

/-! ## Gas prices -/

theorem exists_of_toFixedPoint {wei : Word} (h : toFixedPoint x decimals = .ok wei) :
    x.isFinite = true ∧ x.isNegative = false ∧ ∃ d, ofBinary64? x = some d := by
  unfold toFixedPoint at h
  split at h
  · cases h
  · split at h
    · cases h
    · split at h
      · cases h
      · next hfinite hsign _ d hd => exact ⟨by simpa using hfinite, by simpa using hsign, d, hd⟩

theorem eq_of_asWord {n : ℕ} {w : Word} (h : asWord x decimals n = .ok w) : w.toNat = n := by
  unfold asWord at h
  split at h
  · next hlt =>
    cases h
    exact BitVec.toNat_ofNat _ _ ▸ Nat.mod_eq_of_lt hlt
  · cases h

/-- With so few places that no power wraps, the word is the count itself. -/
theorem toNat_toFixedPoint {wei : Word} (h : toFixedPoint x decimals = .ok wei)
    (hfew : decimals.toNat < 78) :
    ∃ d, ofBinary64? x = some d ∧ wei.toNat = d.roundedUnits decimals.toNat := by
  obtain ⟨hfinite, hsign, d, hd⟩ := exists_of_toFixedPoint h
  have hwraps : ¬d.Wraps decimals.toNat := fun hwraps => by
    have := hwraps.1
    omega
  have hexact := toFixedPoint_of_not_wraps hfinite hsign hd hwraps
  rw [h] at hexact
  exact ⟨d, hd, eq_of_asWord hexact.symm⟩

variable {gwei : Binary64} {wei : Word}

theorem toNat_gweiToWei_lt (h : gweiToWei gwei = .ok wei) : wei.toNat < 2 ^ 96 * 10 ^ 9 := by
  obtain ⟨d, hd, hwei⟩ := toNat_toFixedPoint h (by decide)
  have hsignificand : (d.roundTo gweiDecimals.toNat).significand < 2 ^ 96 :=
    (d.significand_roundTo_le _).trans_lt (fits_of_ofBinary64? hd).significand_lt
  have hplaces : 10 ^ (gweiDecimals.toNat - d.scale) ≤ 10 ^ 9 :=
    Nat.pow_le_pow_right (by norm_num) (Nat.sub_le _ _)
  rw [hwei]
  exact Nat.mul_lt_mul_of_lt_of_le hsignificand hplaces (by norm_num)

theorem toNat_setWidth_gweiToWei (h : gweiToWei gwei = .ok wei) :
    (wei.setWidth 128).toNat = wei.toNat := by
  have hlt := toNat_gweiToWei_lt h
  rw [BitVec.toNat_setWidth, Nat.mod_eq_of_lt]
  omega

/-- **A price in Gwei that is a word in wei is a gas price**, and the same one. -/
theorem gweiToWeiPrice_eq (h : gweiToWei gwei = .ok wei) :
    gweiToWeiPrice gwei = .ok (wei.setWidth 128) := by
  have hlt : wei.toNat < twoTo 128 := (toNat_gweiToWei_lt h).trans (by decide)
  rw [gweiToWeiPrice, h]
  simp only [hlt, if_true]

end Units

end NodeFleet

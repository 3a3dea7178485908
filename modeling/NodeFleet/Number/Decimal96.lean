/-
  Decimals with a 96-bit significand and at most 28 places, and how a double becomes one.

  * `Decimal96.ofBinary64?`: the decimal of a finite double, kept to the 15 or 16 digits that
    a double can vouch for; none for a value beyond the largest significand.
  * `Decimal96.roundTo`: fewer places, an exact half going to the even neighbour.
  * `Decimal96.Fits`: what there is room for; `fits_of_ofBinary64?`: the decimals of doubles fit.
-/
import NodeFleet.Number.Binary64

namespace NodeFleet

/-- The value `significand / 10 ^ scale`. -/
structure Decimal96 where
  significand : Nat
  scale : Nat
  deriving DecidableEq

namespace Decimal96

/-- One more than the largest significand. -/
def limit : Nat := twoTo 96

/-- The most places behind the point. -/
def maxScale : Nat := 28

/-- A significand and a power of ten for `m · 5 ^ n · 10 ^ k`: a factor five is taken in, or
    traded for ten where `m` is even or where it no longer fits; then the lowest bit is lost. -/
def absorbHalves : Nat → Nat → Int → Nat × Int
  | 0, m, k => (m, k)
  | n + 1, m, k =>
    if m % 2 = 0 then absorbHalves n (m / 2) (k + 1)
    else if 5 * m < limit then absorbHalves n (5 * m) k
    else absorbHalves n (m / 2) (k + 1)

private def tenth (m : Nat) : Nat := if m % 10 ≥ 5 then m / 10 + 1 else m / 10

/-- Brings `m / 10 ^ (maxScale + n)` to `maxScale` places, rounding at each place; a value
    that vanishes on the way is zero. -/
def shed : Nat → Nat → Nat × Nat
  | 0, m => (m, maxScale)
  | n + 1, m => if m / 10 = 0 then (0, 0) else shed n (tenth m)

/-- Drops places until 52 bits are enough for the significand. -/
def keepVouched : Nat → Nat → Nat × Nat
  | 0, m => (m, 0)
  | s + 1, m => if m ≥ twoTo 52 then keepVouched s (tenth m) else (m, s + 1)

/-- Drops zeros behind the point. -/
def dropZeros : Nat → Nat → Nat × Nat
  | 0, m => (m, 0)
  | s + 1, m => if m % 10 = 0 then dropZeros s (m / 10) else (m, s + 1)

/-- The decimal of `m · 2 ^ e`; whole numbers are exact. -/
def ofDyadic? (m : Nat) (e : Int) : Option Decimal96 :=
  if e ≥ 0 then
    let v := m * twoTo e.toNat
    if v < limit then some ⟨v, 0⟩ else none
  else
    let (m, k) := absorbHalves (-e).toNat m e
    let places := (-k).toNat
    let (m, s) := if places > maxScale then shed (places - maxScale) m else (m, places)
    let (m, s) := keepVouched s m
    let (m, s) := dropZeros s m
    some ⟨m, s⟩

/-- The magnitude of a finite number as a decimal. -/
def ofBinary64? (x : Binary64) : Option Decimal96 :=
  match x.view with
  | .finite _ m e => if m = 0 then some ⟨0, 0⟩ else ofDyadic? m e
  | _ => none

/-- The decimal with at most `places` places nearest to the given one. -/
def roundTo (places : Nat) (d : Decimal96) : Decimal96 :=
  if d.scale ≤ places then d
  else ⟨Binary64.roundEven d.significand (tenTo (d.scale - places)), places⟩

/-! ## Room -/

/-- What there is room for in a decimal. -/
structure Fits (d : Decimal96) : Prop where
  significand_lt : d.significand < limit
  scale_le : d.scale ≤ maxScale

private theorem tenth_le (m : Nat) : tenth m ≤ m := by
  unfold tenth
  split <;> omega

theorem absorbHalves_lt {m : Nat} (hm : m < limit) (n : Nat) (k : Int) :
    (absorbHalves n m k).1 < limit := by
  induction n generalizing m k with
  | zero => exact hm
  | succ n ih =>
    rw [absorbHalves]
    split
    · exact ih (by omega) _
    · split
      · next hfive => exact ih hfive _
      · exact ih (by omega) _

theorem shed_le (n m : Nat) : (shed n m).1 ≤ m ∧ (shed n m).2 ≤ maxScale := by
  induction n generalizing m with
  | zero => exact ⟨Nat.le_refl m, Nat.le_refl maxScale⟩
  | succ n ih =>
    rw [shed]
    split
    · exact ⟨Nat.zero_le m, Nat.zero_le maxScale⟩
    · exact ⟨Nat.le_trans (ih _).1 (tenth_le m), (ih _).2⟩

theorem keepVouched_le (s m : Nat) : (keepVouched s m).1 ≤ m ∧ (keepVouched s m).2 ≤ s := by
  induction s generalizing m with
  | zero => exact ⟨Nat.le_refl m, Nat.le_refl 0⟩
  | succ s ih =>
    rw [keepVouched]
    split
    · exact ⟨Nat.le_trans (ih _).1 (tenth_le m), Nat.le_succ_of_le (ih _).2⟩
    · exact ⟨Nat.le_refl m, Nat.le_refl _⟩

theorem dropZeros_le (s m : Nat) : (dropZeros s m).1 ≤ m ∧ (dropZeros s m).2 ≤ s := by
  induction s generalizing m with
  | zero => exact ⟨Nat.le_refl m, Nat.le_refl 0⟩
  | succ s ih =>
    rw [dropZeros]
    split
    · exact ⟨Nat.le_trans (ih _).1 (Nat.div_le_self m 10), Nat.le_succ_of_le (ih _).2⟩
    · exact ⟨Nat.le_refl m, Nat.le_refl _⟩

theorem fits_dropZeros_keepVouched {m s : Nat} (hm : m < limit) (hs : s ≤ maxScale) :
    Fits ⟨(dropZeros (keepVouched s m).2 (keepVouched s m).1).1,
      (dropZeros (keepVouched s m).2 (keepVouched s m).1).2⟩ := by
  have hvouched := keepVouched_le s m
  have hzeros := dropZeros_le (keepVouched s m).2 (keepVouched s m).1
  exact ⟨Nat.lt_of_le_of_lt (Nat.le_trans hzeros.1 hvouched.1) hm,
    Nat.le_trans (Nat.le_trans hzeros.2 hvouched.2) hs⟩

theorem fits_of_ofDyadic? {m : Nat} {e : Int} {d : Decimal96} (hm : m < limit)
    (h : ofDyadic? m e = some d) : d.Fits := by
  simp only [ofDyadic?] at h
  split at h
  · split at h
    · next hlt =>
      cases h
      exact ⟨hlt, Nat.zero_le maxScale⟩
    · cases h
  · have hhalves := absorbHalves_lt hm (-e).toNat e
    cases h
    split
    · have hshed := shed_le ((-(absorbHalves (-e).toNat m e).2).toNat - maxScale)
        (absorbHalves (-e).toNat m e).1
      exact fits_dropZeros_keepVouched (Nat.lt_of_le_of_lt hshed.1 hhalves) hshed.2
    · next hfew => exact fits_dropZeros_keepVouched hhalves (Nat.le_of_not_lt hfew)

/-- **The decimals of doubles fit.** -/
theorem fits_of_ofBinary64? {x : Binary64} {d : Decimal96} (h : ofBinary64? x = some d) :
    d.Fits := by
  unfold ofBinary64? at h
  split at h
  · next m e hview =>
    split at h
    · cases h
      exact ⟨twoTo_pos 96, Nat.zero_le maxScale⟩
    · have hm : m < limit := Nat.lt_trans (Binary64.lt_of_view_eq_finite hview) (by decide)
      exact fits_of_ofDyadic? hm h
  · cases h

end Decimal96

end NodeFleet

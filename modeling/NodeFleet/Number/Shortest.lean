/-
  The shortest decimal that reads back as a given double.

  * `Shortest.digits m e`: the fewest significant digits, and among those the nearest to
    `m · 2 ^ e`; an exact tie goes up.
  * `Binary64.text`: positional notation without an exponent and without a bare point.
-/
import NodeFleet.Number.Binary64

namespace NodeFleet

namespace Shortest

/-- A nonnegative value `num / den`. -/
structure Ratio where
  (num den : Nat)

private def dyadic (m : Nat) (e : Int) : Ratio :=
  if e < 0 then ⟨m, twoTo (-e).toNat⟩ else ⟨m * twoTo e.toNat, 1⟩

private def le (a b : Ratio) : Bool := a.num * b.den ≤ b.num * a.den
private def lt (a b : Ratio) : Bool := a.num * b.den < b.num * a.den

private def decimal (d : Nat) (k : Int) : Ratio :=
  if k < 0 then ⟨d, tenTo (-k).toNat⟩ else ⟨d * tenTo k.toNat, 1⟩

/-- The power of ten just not above a positive ratio. -/
private def magnitude (r : Ratio) : Int :=
  let guess : Int := ((Nat.log2 r.num : Int) - Nat.log2 r.den) * 1233 / 4096
  let fits (k : Int) := le (decimal 1 k) r
  if fits (guess + 1) then guess + 1 else if fits guess then guess else guess - 1

/-- Tries grids of `n`, `n + 1`, … digits, at most `tries` of them. -/
private def search (value low high : Ratio) (closed : Bool) (top : Int) : Nat → Nat → Nat × Int
  | 0, n => (0, n)
  | tries + 1, n =>
    let k := top - n + 1
    let unit := decimal 1 k
    let d := value.num * unit.den / (value.den * unit.num)
    let inside (d : Nat) : Bool :=
      let r := decimal d k
      if closed then le low r && le r high else lt low r && lt r high
    let nearUp := le ⟨(2 * d + 1) * unit.num, 2 * unit.den⟩ value
    match inside d, inside (d + 1) with
    | true, true => (if nearUp then d + 1 else d, k)
    | true, false => (d, k)
    | false, true => (d + 1, k)
    | false, false => search value low high closed top tries (n + 1)

/-- Significand and exponent of the shortest decimal in the interval of reals that round to
    `m · 2 ^ e`, for `m > 0`. -/
def digits (m : Nat) (e : Int) : Nat × Int :=
  let narrow := m = twoTo 52 ∧ e > -1074
  let value := dyadic (4 * m) (e - 2)
  let low := dyadic (if narrow then 4 * m - 1 else 4 * m - 2) (e - 2)
  let high := dyadic (4 * m + 2) (e - 2)
  search value low high (m % 2 = 0) (magnitude value) 18 1

/-- Drops the zeros at the end of a significand. -/
def trim : Nat → Nat → Int → Nat × Int
  | 0, d, k => (d, k)
  | n + 1, d, k => if d ≠ 0 ∧ d % 10 = 0 then trim n (d / 10) (k + 1) else (d, k)

/-- `d · 10 ^ k` in positional notation. -/
def positional (d : Nat) (k : Int) : String :=
  let ds := Nat.toDigits 10 d
  if k ≥ 0 then String.ofList (ds ++ List.replicate k.toNat '0')
  else
    let places := (-k).toNat
    if ds.length ≤ places then
      "0." ++ String.ofList (List.replicate (places - ds.length) '0' ++ ds)
    else
      String.ofList (ds.take (ds.length - places)) ++ "."
        ++ String.ofList (ds.drop (ds.length - places))

end Shortest

/-- The shortest text of a number, never with an exponent. -/
def Binary64.text (x : Binary64) : String :=
  match x.view with
  | .nan => "NaN"
  | .infinite s => if s then "-inf" else "inf"
  | .finite s m e =>
    let body := if m = 0 then "0"
      else
        let (d, k) := Shortest.digits m e
        let (d, k) := Shortest.trim 18 d k
        Shortest.positional d k
    if s then "-" ++ body else body

end NodeFleet

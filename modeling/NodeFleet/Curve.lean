/-
  The group of the curve `y² = x³ + 7` over the prime field that account keys live on.

  * `Point`: a point in projective form, `(x / z², y / z³)`, with `z = 0` at infinity.
  * `Point.add`, `Point.double`, `Point.mul`: the group law and its multiples.
  * `Point.affine?`: the coordinates, none at infinity.
  * `liftX`: the point over an abscissa whose ordinate has a given parity.
-/
import NodeFleet.Number.Power

namespace NodeFleet.Curve

/-- The field's characteristic. -/
def p : Nat := twoTo 256 - twoTo 32 - 977

/-- The group's order. -/
def order : Nat := 0xfffffffffffffffffffffffffffffffebaaedce6af48a03bbfd25e8cd0364141

/-- The `e`-th power of `b` modulo `m`, by squaring over the bits of `e`. -/
def powMod (m b : Nat) (e : Nat) : Nat :=
  if e = 0 then 1 % m
  else
    let h := powMod m (b * b % m) (e / 2)
    if e % 2 = 1 then b * h % m else h
termination_by e
decreasing_by omega

/-- The inverse modulo a prime. -/
def invMod (m a : Nat) : Nat := powMod m (a % m) (m - 2)

private def sub (a b : Nat) : Nat := (a + (p - b % p)) % p

structure Point where
  (x y z : Nat)

namespace Point

def infinity : Point := ⟨1, 1, 0⟩

def generator : Point :=
  ⟨0x79be667ef9dcbbac55a06295ce870b07029bfcdb2dce28d959f2815b16f81798,
   0x483ada7726a3c4655da4fbfc0e1108a8fd17b448a68554199c47d08ffb10d4b8, 1⟩

def double (q : Point) : Point :=
  if q.z = 0 ∨ q.y = 0 then infinity
  else
    let yy := q.y * q.y % p
    let s := 4 * q.x * yy % p
    let m := 3 * q.x * q.x % p
    let x := sub (m * m % p) (2 * s)
    let y := sub (m * sub s x % p) (8 * yy * yy)
    ⟨x, y, 2 * q.y * q.z % p⟩

def add (q r : Point) : Point :=
  if q.z = 0 then r
  else if r.z = 0 then q
  else
    let zz := q.z * q.z % p
    let ww := r.z * r.z % p
    let u := q.x * ww % p
    let v := r.x * zz % p
    let s := q.y * ww % p * r.z % p
    let t := r.y * zz % p * q.z % p
    if u = v then
      if s = t then double q else infinity
    else
      let h := sub v u
      let k := sub t s
      let hh := h * h % p
      let hhh := hh * h % p
      let uh := u * hh % p
      let x := sub (sub (k * k % p) hhh) (2 * uh)
      let y := sub (k * sub uh x % p) (s * hhh)
      ⟨x, y, q.z * r.z % p * h % p⟩

/-- The `n`-th multiple, by doubling over the bits of `n`. -/
def mul (n : Nat) (q : Point) : Point :=
  if n = 0 then infinity
  else
    let h := mul (n / 2) (double q)
    if n % 2 = 1 then add q h else h
termination_by n
decreasing_by omega

/-- The coordinates of a point that is not at infinity. -/
def affine? (q : Point) : Option (Nat × Nat) :=
  if q.z = 0 then none
  else
    let i := invMod p q.z
    let ii := i * i % p
    some (q.x * ii % p, q.y * ii % p * i % p)

end Point

/-- The point with abscissa `x` whose ordinate is odd or even as asked, if the curve has one. -/
def liftX (x : Nat) (odd : Bool) : Option Point :=
  if x ≥ p then none
  else
    let rhs := (x * x % p * x + 7) % p
    let y := powMod p rhs ((p + 1) / 4)
    if y * y % p ≠ rhs then none
    else some ⟨x, if (y % 2 = 1) = odd then y else (p - y) % p, 1⟩

end NodeFleet.Curve

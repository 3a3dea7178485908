/-
  Recoverable signatures on the account curve.

  * `Signature`: `r`, `s` and the parity of the ordinate of the nonce point.
  * `PrivateKey`: a scalar between one and the group order; `PrivateKey.ofHex` reads one.
  * `PrivateKey.sign`: the signature of a digest with the nonce derived from key and digest
    by keyed hashing, and the smaller of the two possible `s`.
  * `Signature.recover?`: the signer's address, from digest and signature alone.
-/
import NodeFleet.Bytes.Hex
import NodeFleet.Curve
import NodeFleet.Digest.Keccak
import NodeFleet.Digest.Sha256

namespace NodeFleet

/-- A recoverable signature. -/
structure Signature where
  r : Word
  s : Word
  yParity : Bool
  deriving DecidableEq

/-- A secret scalar. -/
structure PrivateKey where
  scalar : Nat
  pos : 0 < scalar
  lt : scalar < Curve.order

/-- Why a text is no private key. -/
inductive KeyError where
  | text (e : Hex.Error)
  | outOfRange
  deriving DecidableEq

/-- The account that a public point controls. -/
def Address.ofPoint (q : Curve.Point) : Address :=
  match q.affine? with
  | none => Address.zero
  | some (x, y) => Address.ofBytes ((Keccak.keccak256 (beBytes 32 x ++ beBytes 32 y)).drop 12)

namespace PrivateKey

def ofScalar? (n : Nat) : Option PrivateKey :=
  if h : 0 < n ∧ n < Curve.order then some ⟨n, h.1, h.2⟩ else none

/-- Reads 32 bytes of hexadecimal text. -/
def ofHex (s : String) : Except KeyError PrivateKey :=
  match Hex.decodeFixed 32 s with
  | .error e => .error (.text e)
  | .ok bs =>
    match ofScalar? (beValue bs) with
    | none => .error .outOfRange
    | some k => .ok k

def address (k : PrivateKey) : Address :=
  Address.ofPoint (Curve.Point.mul k.scalar Curve.Point.generator)

/-! ## Nonces -/

/-- State of the deterministic generator: a key and a value of 32 bytes. -/
structure Drbg where
  (key value : Bytes)

private def Drbg.reseed (d : Drbg) (tag : UInt8) (seed : Bytes) : Drbg :=
  let key := Sha256.hmac d.key (d.value ++ tag :: seed)
  ⟨key, Sha256.hmac key d.value⟩

/-- The generator's start for a key and a digest. -/
def Drbg.start (k : PrivateKey) (digest : Bytes) : Drbg :=
  let seed := beBytes 32 k.scalar ++ beBytes 32 (beValue digest % Curve.order)
  let d : Drbg := ⟨List.replicate 32 0, List.replicate 32 1⟩
  (d.reseed 0 seed).reseed 1 seed

/-- The signature that a nonce gives, if it gives one. -/
private def signWith? (k : PrivateKey) (digest : Bytes) (nonce : Nat) : Option Signature := do
  if nonce = 0 ∨ Curve.order ≤ nonce then none
  let (x, y) ← (Curve.Point.mul nonce Curve.Point.generator).affine?
  let r := x % Curve.order
  let s := Curve.invMod Curve.order nonce * (beValue digest + r * k.scalar) % Curve.order
  if r = 0 ∨ s = 0 then none
  let high := Curve.order / 2 < s
  return {
    r := BitVec.ofNat 256 r
    s := BitVec.ofNat 256 (if high then Curve.order - s else s)
    yParity := xor (y % 2 == 1) high }

/-- The signature of the first nonce drawn that gives one. A draw fails with a chance below
    `2 ^ -127`, so the number of draws is no limit in practice. -/
private def signFrom (k : PrivateKey) (digest : Bytes) : Nat → Drbg → Option Signature
  | 0, _ => none
  | n + 1, d =>
    let value := Sha256.hmac d.key d.value
    match signWith? k digest (beValue value) with
    | some signature => some signature
    | none => signFrom k digest n (Drbg.reseed { d with value } 0 [])

/-- The signature of a 32-byte digest. -/
def sign (k : PrivateKey) (digest : Hash) : Signature :=
  (signFrom k digest.toBytes 128 (Drbg.start k digest.toBytes)).getD ⟨0, 0, false⟩

end PrivateKey

/-- The address whose key signed a digest. -/
def Signature.recover? (sig : Signature) (digest : Hash) : Option Address := do
  let r := sig.r.toNat
  let s := sig.s.toNat
  if r = 0 ∨ Curve.order ≤ r ∨ s = 0 ∨ Curve.order ≤ s then none
  let nonce ← Curve.liftX r sig.yParity
  let i := Curve.invMod Curve.order r
  let z := digest.value.toNat % Curve.order
  let q := (Curve.Point.mul (s * i % Curve.order) nonce).add
    (Curve.Point.mul ((Curve.order - z) * i % Curve.order) Curve.Point.generator)
  let _ ← q.affine?
  return Address.ofPoint q

end NodeFleet

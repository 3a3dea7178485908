/-
  SHA-256 and the keyed digest built on it.

  * `sha256`: the digest of a byte string.
  * `hmac key msg`: the keyed digest, with the key brought to one block.
-/
import NodeFleet.Bytes

namespace NodeFleet.Sha256

/-- The eight working words. -/
structure Chain where
  (a b c d e f g h : UInt32)

private def initial : Chain :=
  ⟨0x6a09e667, 0xbb67ae85, 0x3c6ef372, 0xa54ff53a, 0x510e527f, 0x9b05688c, 0x1f83d9ab, 0x5be0cd19⟩

private def roundConstants : List UInt32 :=
  [0x428a2f98, 0x71374491, 0xb5c0fbcf, 0xe9b5dba5, 0x3956c25b, 0x59f111f1, 0x923f82a4, 0xab1c5ed5,
   0xd807aa98, 0x12835b01, 0x243185be, 0x550c7dc3, 0x72be5d74, 0x80deb1fe, 0x9bdc06a7, 0xc19bf174,
   0xe49b69c1, 0xefbe4786, 0x0fc19dc6, 0x240ca1cc, 0x2de92c6f, 0x4a7484aa, 0x5cb0a9dc, 0x76f988da,
   0x983e5152, 0xa831c66d, 0xb00327c8, 0xbf597fc7, 0xc6e00bf3, 0xd5a79147, 0x06ca6351, 0x14292967,
   0x27b70a85, 0x2e1b2138, 0x4d2c6dfc, 0x53380d13, 0x650a7354, 0x766a0abb, 0x81c2c92e, 0x92722c85,
   0xa2bfe8a1, 0xa81a664b, 0xc24b8b70, 0xc76c51a3, 0xd192e819, 0xd6990624, 0xf40e3585, 0x106aa070,
   0x19a4c116, 0x1e376c08, 0x2748774c, 0x34b0bcb5, 0x391c0cb3, 0x4ed8aa4a, 0x5b9cca4f, 0x682e6ff3,
   0x748f82ee, 0x78a5636f, 0x84c87814, 0x8cc70208, 0x90befffa, 0xa4506ceb, 0xbef9a3f7, 0xc67178f2]

private def rotr (x : UInt32) (n : Nat) : UInt32 :=
  (x >>> UInt32.ofNat n) ||| (x <<< UInt32.ofNat (32 - n))

private def wordAt (block : Bytes) (i : Nat) : UInt32 :=
  UInt32.ofNat (beValue ((block.drop (4 * i)).take 4))

/-- Extends the message schedule by `n` words; the newest word stands first. -/
private def extend : Nat → List UInt32 → List UInt32
  | 0, w => w
  | n + 1, w =>
    let s0 := fun x => rotr x 7 ^^^ rotr x 18 ^^^ (x >>> 3)
    let s1 := fun x => rotr x 17 ^^^ rotr x 19 ^^^ (x >>> 10)
    extend n ((w.getD 15 0 + s0 (w.getD 14 0) + w.getD 6 0 + s1 (w.getD 1 0)) :: w)

private def step (s : Chain) (kw : UInt32 × UInt32) : Chain :=
  let t1 := s.h + (rotr s.e 6 ^^^ rotr s.e 11 ^^^ rotr s.e 25)
    + ((s.e &&& s.f) ^^^ (~~~ s.e &&& s.g)) + kw.1 + kw.2
  let t2 := (rotr s.a 2 ^^^ rotr s.a 13 ^^^ rotr s.a 22)
    + ((s.a &&& s.b) ^^^ (s.a &&& s.c) ^^^ (s.b &&& s.c))
  ⟨t1 + t2, s.a, s.b, s.c, s.d + t1, s.e, s.f, s.g⟩

private def compress (s : Chain) (block : Bytes) : Chain :=
  let w := (extend 48 ((List.range 16).map (wordAt block)).reverse).reverse
  let t := (roundConstants.zip w).foldl step s
  ⟨s.a + t.a, s.b + t.b, s.c + t.c, s.d + t.d, s.e + t.e, s.f + t.f, s.g + t.g, s.h + t.h⟩

/-- The message with its length in bits at the end of the last of its 64-byte blocks. -/
def pad (msg : Bytes) : Bytes :=
  msg ++ 0x80 :: List.replicate ((119 - msg.length % 64) % 64) 0 ++ beBytes 8 (8 * msg.length)

private def absorb : Nat → Bytes → Chain → Chain
  | 0, _, s => s
  | n + 1, bs, s => absorb n (bs.drop 64) (compress s (bs.take 64))

def sha256 (msg : Bytes) : Bytes :=
  let padded := pad msg
  let s := absorb (padded.length / 64) padded initial
  [s.a, s.b, s.c, s.d, s.e, s.f, s.g, s.h].flatMap fun w => beBytes 4 w.toNat

/-- The keyed digest: an inner and an outer digest over the masked key. -/
def hmac (key msg : Bytes) : Bytes :=
  let short := if key.length > 64 then sha256 key else key
  let block := short ++ List.replicate (64 - short.length) 0
  sha256 (block.map (· ^^^ 0x5c) ++ sha256 (block.map (· ^^^ 0x36) ++ msg))

end NodeFleet.Sha256

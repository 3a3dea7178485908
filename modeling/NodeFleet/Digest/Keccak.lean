/-
  Keccak-256: the sponge over the 1600-bit permutation with a rate of 136 bytes and the
  padding `01 … 80`.

  * `permute`: the 24 rounds on a state of 25 lanes.
  * `keccak256`: the digest of a byte string; its length is always 32
    (`length_keccak256`).
-/
import NodeFleet.Bytes

namespace NodeFleet.Keccak

/-- The lanes of the sponge, lane `x + 5 * y` at that place. -/
abbrev Lanes := List UInt64

private def lane (s : Lanes) (i : Nat) : UInt64 := s.getD i 0

private def rotl (x : UInt64) (n : Nat) : UInt64 :=
  if n = 0 then x else (x <<< UInt64.ofNat n) ||| (x >>> UInt64.ofNat (64 - n))

private def roundConstants : List UInt64 :=
  [0x0000000000000001, 0x0000000000008082, 0x800000000000808a, 0x8000000080008000,
   0x000000000000808b, 0x0000000080000001, 0x8000000080008081, 0x8000000000008009,
   0x000000000000008a, 0x0000000000000088, 0x0000000080008009, 0x000000008000000a,
   0x000000008000808b, 0x800000000000008b, 0x8000000000008089, 0x8000000000008003,
   0x8000000000008002, 0x8000000000000080, 0x000000000000800a, 0x800000008000000a,
   0x8000000080008081, 0x8000000000008080, 0x0000000080000001, 0x8000000080008008]

/-- How far each lane turns. -/
private def turns : List Nat :=
  [0, 1, 62, 28, 27, 36, 44, 6, 55, 20, 3, 10, 43, 25, 39, 41, 45, 15, 21, 8, 18, 2, 61, 56, 14]

private def overLanes (f : Nat → Nat → UInt64) : Lanes :=
  (List.range 25).map fun i => f (i % 5) (i / 5)

/-- One round: column parity, turning and moving lanes, row mixing, round constant. -/
def round (s : Lanes) (rc : UInt64) : Lanes :=
  let parity := (List.range 5).map fun x =>
    lane s x ^^^ lane s (x + 5) ^^^ lane s (x + 10) ^^^ lane s (x + 15) ^^^ lane s (x + 20)
  let delta := (List.range 5).map fun x =>
    lane parity ((x + 4) % 5) ^^^ rotl (lane parity ((x + 1) % 5)) 1
  let a := overLanes fun x y => lane s (x + 5 * y) ^^^ lane delta x
  let b := overLanes fun x y =>
    let i := (x + 3 * y) % 5 + 5 * x
    rotl (lane a i) (turns.getD i 0)
  let c := overLanes fun x y =>
    lane b (x + 5 * y) ^^^ (~~~ lane b ((x + 1) % 5 + 5 * y) &&& lane b ((x + 2) % 5 + 5 * y))
  c.modify 0 (· ^^^ rc)

def permute (s : Lanes) : Lanes := roundConstants.foldl round s

/-- Bytes taken in between two permutations. -/
def rate : Nat := 136

/-- The padded message, a whole number of blocks. -/
def pad (msg : Bytes) : Bytes :=
  let free := rate - msg.length % rate
  if free = 1 then msg ++ [0x81] else msg ++ 0x01 :: List.replicate (free - 2) 0 ++ [0x80]

/-- The lane that eight bytes spell, least significant first. -/
private def laneOfBytes (bs : Bytes) : UInt64 := UInt64.ofNat (beValue (bs.take 8).reverse)

private def absorbBlock (s : Lanes) (block : Bytes) : Lanes :=
  permute ((List.range 25).map fun i =>
    if i < 17 then lane s i ^^^ laneOfBytes (block.drop (8 * i)) else lane s i)

/-- Takes in the given number of blocks from the front of a byte string. -/
def absorb : Nat → Bytes → Lanes → Lanes
  | 0, _, s => s
  | n + 1, bs, s => absorb n (bs.drop rate) (absorbBlock s (bs.take rate))

/-- The digest of a byte string. -/
def keccak256 (msg : Bytes) : Bytes :=
  let padded := pad msg
  let s := absorb (padded.length / rate) padded (List.replicate 25 0)
  [0, 1, 2, 3].flatMap fun i => (beBytes 8 (lane s i).toNat).reverse

theorem length_keccak256 (msg : Bytes) : (keccak256 msg).length = 32 := by
  simp [keccak256]

end NodeFleet.Keccak

namespace NodeFleet

/-- The hash of a byte string. -/
def Hash.ofKeccak (msg : Bytes) : Hash := Hash.ofBytes (Keccak.keccak256 msg)

end NodeFleet

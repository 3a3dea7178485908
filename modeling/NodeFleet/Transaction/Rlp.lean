/-
  The length-prefixed encoding of nested lists of byte strings.

  * `Rlp.Item`: a byte string or a list of items; `Item.ofNat` is a number without leading
    zeros.
  * `Item.encode`: its bytes.
  * `Item.decode?`: the item that a byte string begins with, and what follows it.
-/
import NodeFleet.Bytes

namespace NodeFleet.Rlp

inductive Item where
  | bytes (bs : Bytes)
  | list (items : List Item)
  deriving Inhabited

/-- A number in the fewest bytes. -/
def Item.ofNat (n : Nat) : Item := .bytes (minBytes n)

/-- The bytes in front of a payload. Up to 55 bytes the length is part of the first byte, and
    beyond that its own length is. -/
def header (base size : Nat) : Bytes :=
  if size < 56 then [UInt8.ofNat (base + size)]
  else
    let bs := minBytes size
    UInt8.ofNat (base + 55 + bs.length) :: bs

/-- A byte string; one below 128 stands for itself. -/
def encodeBytes (bs : Bytes) : Bytes :=
  match bs with
  | [b] => if b.toNat < 0x80 then [b] else header 0x80 1 ++ [b]
  | bs => header 0x80 bs.length ++ bs

mutual
def Item.encode : Item → Bytes
  | .bytes bs => encodeBytes bs
  | .list items =>
    let payload := encodeItems items
    header 0xc0 payload.length ++ payload
def encodeItems : List Item → Bytes
  | [] => []
  | i :: is => i.encode ++ encodeItems is
end

/-! ## Reading -/

/-- Splits off a payload whose length stands in `n` bytes. -/
def takeLong? (n : Nat) (bs : Bytes) : Option (Bytes × Bytes) :=
  let size := beValue (bs.take n)
  let rest := bs.drop n
  if bs.length < n ∨ (bs.take n).head? = some 0 ∨ size < 56 ∨ rest.length < size then none
  else some (rest.take size, rest.drop size)

def takeShort? (n : Nat) (bs : Bytes) : Option (Bytes × Bytes) :=
  if bs.length < n then none else some (bs.take n, bs.drop n)

mutual
/-- The first item and the rest; `fuel` bounds the nesting. -/
def decodeItem? : Nat → Bytes → Option (Item × Bytes)
  | 0, _ => none
  | _ + 1, [] => none
  | fuel + 1, b :: bs =>
    let t := b.toNat
    if t < 0x80 then some (.bytes [b], bs)
    else if t < 0xb8 then
      match takeShort? (t - 0x80) bs with
      | some ([x], rest) => if x.toNat < 0x80 then none else some (.bytes [x], rest)
      | some (payload, rest) => some (.bytes payload, rest)
      | none => none
    else if t < 0xc0 then (takeLong? (t - 0xb7) bs).map fun (payload, rest) => (.bytes payload, rest)
    else
      let split := if t < 0xf8 then takeShort? (t - 0xc0) bs else takeLong? (t - 0xf7) bs
      match split with
      | none => none
      | some (payload, rest) => (decodeItems? fuel payload).map fun items => (.list items, rest)
/-- All items of a payload. -/
def decodeItems? : Nat → Bytes → Option (List Item)
  | 0, _ => none
  | _ + 1, [] => some []
  | fuel + 1, bs =>
    match decodeItem? fuel bs with
    | none => none
    | some (item, rest) => (decodeItems? fuel rest).map (item :: ·)
end

/-- The item that a byte string begins with, and what follows it. Each step takes a byte or
    opens a list, so the length bounds their number. -/
def Item.decode? (bs : Bytes) : Option (Item × Bytes) := decodeItem? (2 * bs.length + 2) bs

/-- A number without leading zeros. -/
def Item.nat? : Item → Option Nat
  | .bytes [] => some 0
  | .bytes (b :: bs) => if b = 0 then none else some (beValue (b :: bs))
  | .list _ => none

end NodeFleet.Rlp

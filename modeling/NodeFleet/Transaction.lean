/-
  Transactions to be sent.

  * `UnsignedTransaction`: what a sender decides; `maxFee` is the most it can burn.
  * `SignedTransaction`: a transaction, the chain it is bound to, and a signature.
  * `signingBytes`: what is signed; `SignedTransaction.encoded`: what is sent;
    `SignedTransaction.hash`: the digest of that.
  * `SignedTransaction.decode?`: reads the wire form back.
-/
import NodeFleet.Curve.Ecdsa
import NodeFleet.Transaction.Rlp

namespace NodeFleet

/-- A transaction that nobody has signed. -/
structure UnsignedTransaction where
  nonce : UInt64
  /-- The destination; without one a contract is created. -/
  to_ : Option Address
  value : Word
  gasLimit : UInt64
  /-- In wei. -/
  gasPrice : BitVec 128
  data : Bytes
  deriving DecidableEq

namespace UnsignedTransaction

/-- Gas limit times gas price. -/
def maxFee (tx : UnsignedTransaction) : Word :=
  BitVec.ofNat 256 (tx.gasLimit.toNat * tx.gasPrice.toNat)

/-- The fields in the order of the wire. -/
def items (tx : UnsignedTransaction) : List Rlp.Item :=
  [.ofNat tx.nonce.toNat, .ofNat tx.gasPrice.toNat, .ofNat tx.gasLimit.toNat,
   .bytes (match tx.to_ with
     | some a => a.toBytes
     | none => []),
   .ofNat tx.value.toNat, .bytes tx.data]

/-- What is signed: the fields and, for a signature bound to a chain, its number and two
    empty items. -/
def signingBytes (tx : UnsignedTransaction) (chainId : Option UInt64) : Bytes :=
  match chainId with
  | none => (Rlp.Item.list tx.items).encode
  | some id => (Rlp.Item.list (tx.items ++ [.ofNat id.toNat, .ofNat 0, .ofNat 0])).encode

/-- The digest that a key signs. -/
def signingHash (tx : UnsignedTransaction) (chainId : Option UInt64) : Hash :=
  Hash.ofKeccak (tx.signingBytes chainId)

end UnsignedTransaction

/-- A transaction with its signature. -/
structure SignedTransaction where
  unsigned : UnsignedTransaction
  /-- The chain that the signature is bound to. -/
  chainId : Option UInt64
  signature : Signature
  deriving DecidableEq

namespace SignedTransaction

/-- The number that tells chain and parity on the wire. -/
def recovery (chainId : Option UInt64) (yParity : Bool) : Nat :=
  match chainId with
  | none => 27 + yParity.toNat
  | some id => 35 + 2 * id.toNat + yParity.toNat

/-- What is sent to nodes. -/
def encoded (tx : SignedTransaction) : Bytes :=
  (Rlp.Item.list (tx.unsigned.items ++
    [.ofNat (recovery tx.chainId tx.signature.yParity), .ofNat tx.signature.r.toNat,
     .ofNat tx.signature.s.toNat])).encode

def hash (tx : SignedTransaction) : Hash := Hash.ofKeccak tx.encoded

/-! ## Reading the wire form -/

/-- Where a transaction goes: twenty bytes, or none. -/
def destination? : Rlp.Item → Option (Option Address)
  | .bytes [] => some none
  | .bytes bs => if bs.length = 20 then some (some (Address.ofBytes bs)) else none
  | .list _ => none

/-- A number below a limit. -/
def below? (limit : Nat) (i : Rlp.Item) : Option Nat :=
  i.nat?.filter (· < limit)

/-- Chain and parity, from the number that tells them. -/
def binding? (v : Nat) : Option (Option UInt64 × Bool) :=
  if v = 27 ∨ v = 28 then some (none, v == 28)
  else if 35 ≤ v ∧ v < 35 + twoTo 65 then
    some (some (UInt64.ofNat ((v - 35) / 2)), (v - 35) % 2 == 1)
  else none

def ofItems? : List Rlp.Item → Option SignedTransaction
  | [nonce, gasPrice, gasLimit, to_, value, .bytes data, v, r, s] => do
    let nonce ← below? (twoTo 64) nonce
    let gasPrice ← below? (twoTo 128) gasPrice
    let gasLimit ← below? (twoTo 64) gasLimit
    let to_ ← destination? to_
    let value ← below? (twoTo 256) value
    let (chainId, yParity) ← v.nat?.bind binding?
    let r ← below? (twoTo 256) r
    let s ← below? (twoTo 256) s
    return {
      unsigned := {
        nonce := UInt64.ofNat nonce
        to_
        value := BitVec.ofNat 256 value
        gasLimit := UInt64.ofNat gasLimit
        gasPrice := BitVec.ofNat 128 gasPrice
        data }
      chainId
      signature := ⟨BitVec.ofNat 256 r, BitVec.ofNat 256 s, yParity⟩ }
  | _ => none

/-- The transaction whose wire form a byte string is. -/
def decode? (bs : Bytes) : Option SignedTransaction :=
  match Rlp.Item.decode? bs with
  | some (.list items, []) => ofItems? items
  | _ => none

end SignedTransaction

end NodeFleet

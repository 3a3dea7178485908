/-
  Who signs transactions.

  * `Signer`: an address and a way to sign for it, which may fail.
  * `LocalKey`: a key in memory and the chain that its signatures are bound to.
-/
import NodeFleet.Error
import NodeFleet.Transaction

namespace NodeFleet

/-- An address and a way to sign for it. -/
structure Signer where
  address : Address
  sign : UnsignedTransaction → Result SignedTransaction

/-- A key in memory. -/
structure LocalKey where
  key : PrivateKey
  /-- The chain that signatures are bound to, if any. -/
  replayProtection : Option UInt64

namespace LocalKey

/-- Reads a key; one `0x` before the written key does not count. -/
def parse (s : String) (replayProtection : Option UInt64) : Except SignerError LocalKey :=
  let digits := match s.toList with
    | '0' :: 'x' :: rest => String.ofList rest
    | _ => s
  match PrivateKey.ofHex digits with
  | .error e => .error (.key e)
  | .ok key => .ok ⟨key, replayProtection⟩

def sign (k : LocalKey) (tx : UnsignedTransaction) : SignedTransaction :=
  ⟨tx, k.replayProtection, k.key.sign (tx.signingHash k.replayProtection)⟩

def signer (k : LocalKey) : Signer := ⟨k.key.address, fun tx => .ok (k.sign tx)⟩

end LocalKey

end NodeFleet

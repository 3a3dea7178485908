/-
  Fungible tokens with the standard methods.

  * `Token.balanceOf`, `Token.allowance`, `Token.decimals`, `Token.transfer`: their calldata.
  * `Token.readAmount`, `Token.readDecimals`: what they return. Only the low byte of a number of
    places is looked at.
-/
import NodeFleet.Abi.Decode
import NodeFleet.Digest.Keccak
import NodeFleet.Error

namespace NodeFleet.Token

/-- Calldata of a method whose arguments are one word each. -/
def calldata (signature : String) (args : List Word) : Bytes :=
  (Keccak.keccak256 (Utf8.encode signature)).take 4 ++ args.flatMap wordBytes

def balanceOf (owner : Address) : Bytes := calldata "balanceOf(address)" [owner.toWord]

def allowance (owner spender : Address) : Bytes :=
  calldata "allowance(address,address)" [owner.toWord, spender.toWord]

def decimals : Bytes := calldata "decimals()" []

def transfer (to_ : Address) (amount : Word) : Bytes :=
  calldata "transfer(address,uint256)" [to_.toWord, amount]

/-- The first word of return data. -/
def firstWord (output : Bytes) : Except Abi.DecodeError Word := (Abi.Frame.mk output 0).word 0

def readAmount (output : Bytes) : Except DecodeError Word :=
  match firstWord output with
  | .ok w => .ok w
  | .error e => .error (.amount e)

def readDecimals (output : Bytes) : Except DecodeError UInt8 :=
  match firstWord output with
  | .ok w => .ok (UInt8.ofNat (w.toNat % 256))
  | .error e => .error (.decimals e)

end NodeFleet.Token

/-
  Written addresses and hashes.

  * `Address.checksummed`: hexadecimal digits whose case is a checksum of themselves.
  * `Address.text`, `Hash.text`: lower case.
  * `Address.parse`, `Hash.parse`: texts of exactly as many digits, with or without `0x`.
-/
import NodeFleet.Bytes.Hex
import NodeFleet.Digest.Keccak
import NodeFleet.Text.Quoted
import NodeFleet.Text.Utf8

namespace NodeFleet

namespace Address

def text (a : Address) : String := Hex.prefixed a.toBytes

/-- The digits of a byte string, four bits each. -/
def nibbles : Bytes → List Nat
  | [] => []
  | b :: bs => b.toNat / 16 :: b.toNat % 16 :: nibbles bs

/-- Digits in upper case where the digest of the lower-case digits has a high nibble. -/
def checksummed (a : Address) : String :=
  let digits := Hex.encode a.toBytes
  let digest := Keccak.keccak256 (digits.map fun c => UInt8.ofNat c.toNat)
  "0x" ++ String.ofList ((digits.zip (nibbles digest)).map fun (c, n) =>
    if n ≥ 8 then c.toUpper else c)

def parse (s : String) : Except Hex.Error Address := (Hex.decodeFixed 20 s).map ofBytes

end Address

namespace Hash

def text (h : Hash) : String := Hex.prefixed h.toBytes

def parse (s : String) : Except Hex.Error Hash := (Hex.decodeFixed 32 s).map ofBytes

end Hash

def Selector.text (s : Selector) : String := Hex.prefixed s.toBytes

/-- What is wrong with a hexadecimal text. A digit outside the basic set is shown as the
    character with the value of its first byte. -/
def Hex.Error.message (e : Hex.Error) : String :=
  match e with
  | .oddLength => "odd number of digits"
  | .badDigit c i =>
    let shown := match Utf8.encode (String.singleton c) with
      | b :: _ => Char.ofNat b.toNat
      | [] => c
    "invalid character " ++ Text.quotedChar shown ++ " at position " ++ toString i
  | .wrongLength => "invalid string length"

end NodeFleet

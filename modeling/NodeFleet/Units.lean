/-
  Amounts as integers of the smallest unit, and as decimal numbers of a larger one.

  * `format`: the exact decimal numeral of `value / 10 ^ decimals`.
  * `toFixedPoint`: the integer of an amount given as a double, rounded half to even.
  * `ofFixedPoint`: the double nearest to a numeral.
  * `gweiToWei`, `gweiToWeiPrice`, `ethToWei`: the two places of the point that chains use.
-/
import NodeFleet.Bytes
import NodeFleet.Number.Decimal96
import NodeFleet.Number.Shortest

namespace NodeFleet

/-- Why a number is no amount. -/
inductive AmountError where
  | notFinite (amount : Binary64)
  | negative (amount : Binary64)
  /-- Beyond the largest decimal. -/
  | outOfRange (amount : Binary64)
  /-- Beyond the largest word, once scaled. -/
  | tooLarge (amount : Binary64) (decimals : Nat)
  /-- Beyond the largest gas price. -/
  | priceTooLarge (gwei : Binary64)
  deriving DecidableEq

namespace Units

/-- Places behind the point of the native asset. -/
def nativeDecimals : UInt8 := 18

/-- Places behind the point of a gas price in Gwei. -/
def gweiDecimals : UInt8 := 9

/-! ## Integers to text -/

/-- Without the zeros at the end. -/
def dropTrailingZeros (ds : List Char) : List Char := (ds.reverse.dropWhile (· = '0')).reverse

/-- A numeral from the digits in front of the point and behind it; a bare point is not
    written. -/
def numeral (whole fraction : List Char) : List Char :=
  match dropTrailingZeros fraction with
  | [] => whole
  | c :: cs => whole ++ '.' :: c :: cs

/-- The digits of `value / 10 ^ decimals`. -/
def formatDigits (value decimals : Nat) : List Char :=
  let ds := Nat.toDigits 10 value
  if value = 0 then ['0']
  else if ds.length ≤ decimals then
    numeral ['0'] (List.replicate (decimals - ds.length) '0' ++ ds)
  else numeral (ds.take (ds.length - decimals)) (ds.drop (ds.length - decimals))

def format (value : Word) (decimals : UInt8) : String :=
  String.ofList (formatDigits value.toNat decimals.toNat)

/-! ## Between doubles and integers -/

/-- The integer of an amount with the given number of places. The decimal of the double is
    rounded to those places first; the power of ten that is left is a word and wraps. -/
def toFixedPoint (amount : Binary64) (decimals : UInt8) : Except AmountError Word :=
  if !amount.isFinite then .error (.notFinite amount)
  else if amount.isNegative then .error (.negative amount)
  else
    match Decimal96.ofBinary64? amount with
    | none => .error (.outOfRange amount)
    | some d =>
      let r := d.roundTo decimals.toNat
      let scaled := r.significand * (tenTo (decimals.toNat - r.scale) % twoTo 256)
      if scaled < twoTo 256 then .ok (BitVec.ofNat 256 scaled)
      else .error (.tooLarge amount decimals.toNat)

/-- The double nearest to `value / 10 ^ decimals`. -/
def ofFixedPoint (value : Word) (decimals : UInt8) : Binary64 :=
  (Binary64.read? (format value decimals)).getD (Binary64.zero false)

def gweiToWei (gwei : Binary64) : Except AmountError Word := toFixedPoint gwei gweiDecimals

/-- A gas price in wei; prices have 128 bits. -/
def gweiToWeiPrice (gwei : Binary64) : Except AmountError (BitVec 128) :=
  match gweiToWei gwei with
  | .error e => .error e
  | .ok wei =>
    if wei.toNat < twoTo 128 then .ok (wei.setWidth 128) else .error (.priceTooLarge gwei)

def ethToWei (eth : Binary64) : Except AmountError Word := toFixedPoint eth nativeDecimals

end Units

end NodeFleet

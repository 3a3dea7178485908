/-
  Hexadecimal text of byte strings.

  * `encode`: lower case, two digits a byte; `prefixed` puts `0x` in front.
  * `number`: the digits of a number, no more than it needs.
  * `decode`: digits of either case after at most one `0x` or `0X`; the odd count is noticed
    before a bad digit is, and a bad digit is named with its place after the prefix.
  * `decodeFixed`: the same, for exactly `n` bytes.
-/
import NodeFleet.Bytes

namespace NodeFleet.Hex

/-- Why a text is no hexadecimal byte string. -/
inductive Error where
  | oddLength
  | badDigit (c : Char) (index : Nat)
  | wrongLength
  deriving DecidableEq, Repr

def digit (n : Nat) : Char :=
  if n < 10 then Char.ofNat (48 + n) else Char.ofNat (87 + n)

def encode : Bytes → List Char
  | [] => []
  | b :: bs => digit (b.toNat / 16) :: digit (b.toNat % 16) :: encode bs

/-- Lower-case digits without `0x`. -/
def text (bs : Bytes) : String := String.ofList (encode bs)

/-- Lower-case digits after `0x`. -/
def prefixed (bs : Bytes) : String := "0x" ++ text bs

/-- A number after `0x`, without leading zeros. -/
def number (n : Nat) : String := "0x" ++ String.ofList (Nat.toDigits 16 n)

/-- The value of a hexadecimal digit of either case. -/
def digitValue? (c : Char) : Option Nat :=
  if '0' ≤ c ∧ c ≤ '9' then some (c.toNat - 48)
  else if 'a' ≤ c ∧ c ≤ 'f' then some (c.toNat - 87)
  else if 'A' ≤ c ∧ c ≤ 'F' then some (c.toNat - 55)
  else none

/-- Reads digit pairs; `i` is the place of the next digit. -/
def decodePairs : Nat → List Char → Except Error Bytes
  | _, [] => .ok []
  | i, [a] => if (digitValue? a).isSome then .error .oddLength else .error (.badDigit a i)
  | i, a :: b :: rest =>
    match digitValue? a, digitValue? b with
    | none, _ => .error (.badDigit a i)
    | some _, none => .error (.badDigit b (i + 1))
    | some x, some y => (decodePairs (i + 2) rest).map (UInt8.ofNat (16 * x + y) :: ·)

/-- The text after one leading `0x` or `0X`, if there is one. -/
def stripMark : List Char → List Char
  | '0' :: 'x' :: rest => rest
  | '0' :: 'X' :: rest => rest
  | cs => cs

/-- How many bytes characters take in UTF-8. -/
def encodedSize : List Char → Nat
  | [] => 0
  | c :: cs => c.utf8Size + encodedSize cs

/-- The bytes that a text spells. The number of digits is counted in UTF-8 units, so that a
    text of odd size is refused as such before its digits are looked at. -/
def decodeChars (cs : List Char) : Except Error Bytes :=
  let ds := stripMark cs
  if encodedSize ds % 2 = 1 then .error .oddLength else decodePairs 0 ds

def decode (s : String) : Except Error Bytes := decodeChars s.toList

/-- The bytes of a text that must spell exactly `n` of them. -/
def decodeFixed (n : Nat) (s : String) : Except Error Bytes :=
  let ds := stripMark s.toList
  let size := encodedSize ds
  if size % 2 = 1 then .error .oddLength
  else if size ≠ 2 * n then .error .wrongLength
  else decodePairs 0 ds

/-! ## Written digits -/

theorem length_encode (bs : Bytes) : (encode bs).length = 2 * bs.length := by
  induction bs with
  | nil => rfl
  | cons b bs ih =>
    rw [encode, List.length_cons, List.length_cons, ih, List.length_cons]
    omega

theorem exists_digit_of_mem_encode {bs : Bytes} {c : Char} (h : c ∈ encode bs) :
    ∃ d < 16, c = digit d := by
  induction bs with
  | nil => cases h
  | cons b bs ih =>
    have hb : b.toNat < 256 := b.toNat_lt
    rw [encode, List.mem_cons, List.mem_cons] at h
    rcases h with rfl | rfl | h
    · exact ⟨_, by omega, rfl⟩
    · exact ⟨_, by omega, rfl⟩
    · exact ih h

/-! ## Round trip -/

theorem digitValue?_digit (n : Nat) (h : n < 16) : digitValue? (digit n) = some n := by
  have : ∀ k : Fin 16, digitValue? (digit k) = some k.val := by decide
  exact this ⟨n, h⟩

theorem decodePairs_encode (i : Nat) (bs : Bytes) : decodePairs i (encode bs) = .ok bs := by
  induction bs generalizing i with
  | nil => rfl
  | cons b bs ih =>
    have hb : b.toNat < 256 := b.toNat_lt
    rw [encode, decodePairs, digitValue?_digit _ (by omega), digitValue?_digit _ (by omega)]
    simp only [ih, Except.map]
    congr 2
    rw [show 16 * (b.toNat / 16) + b.toNat % 16 = b.toNat by omega]
    simp

end NodeFleet.Hex

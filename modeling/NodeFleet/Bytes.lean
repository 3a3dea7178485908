/-
  Byte strings and the fixed-width words that chains speak in.

  * `Bytes`: a byte string.
  * `Word`, `Address`, `Hash`, `Selector`: 256, 160, 256 and 32 bit values.
  * `beBytes n w`: the `n` bytes of `w`, most significant first, and `beValue`, which
    reads them back (`beValue_beBytes`, `beBytes_beValue`). Values that fill their bytes are
    these bytes in another form (`ofNat_beValue_beBytes`, `beBytes_ofNat_beValue`).
-/
import NodeFleet.Number.Power

namespace NodeFleet

/-- A byte string. -/
abbrev Bytes := List UInt8

/-- A 256-bit unsigned integer: amounts, ABI words, topics. -/
abbrev Word := BitVec 256

/-- The value of a byte string read most significant byte first. -/
def beValue : Bytes → Nat
  | [] => 0
  | b :: bs => b.toNat * twoTo (8 * bs.length) + beValue bs

/-- The `n` low bytes of `v`, most significant first. -/
def beBytes : Nat → Nat → Bytes
  | 0, _ => []
  | n + 1, v => UInt8.ofNat (v / twoTo (8 * n)) :: beBytes n v

@[simp] theorem length_beBytes (n v : Nat) : (beBytes n v).length = n := by
  induction n with
  | zero => rfl
  | succ n ih => simp [beBytes, ih]

/-- The fewest bytes that hold `v`, most significant first; none for zero. -/
def minBytes (v : Nat) : Bytes :=
  if v = 0 then [] else beBytes (Nat.log2 v / 8 + 1) v

/-- An account or contract address. -/
structure Address where
  value : BitVec 160
  deriving DecidableEq, Hashable, Inhabited

/-- A transaction hash, block hash or event topic. -/
structure Hash where
  value : BitVec 256
  deriving DecidableEq, Hashable, Inhabited

/-- The first four bytes of calldata, which name the method. -/
structure Selector where
  value : BitVec 32
  deriving DecidableEq, Hashable, Inhabited

namespace Address

def zero : Address := ⟨0⟩

def toBytes (a : Address) : Bytes := beBytes 20 a.value.toNat

/-- The address held by the last twenty bytes of a byte string. -/
def ofBytes (bs : Bytes) : Address := ⟨BitVec.ofNat 160 (beValue bs)⟩

/-- An address as the low part of a word. -/
def toWord (a : Address) : Word := a.value.setWidth 256

end Address

namespace Hash

def zero : Hash := ⟨0⟩

def toBytes (h : Hash) : Bytes := beBytes 32 h.value.toNat

def ofBytes (bs : Bytes) : Hash := ⟨BitVec.ofNat 256 (beValue bs)⟩

end Hash

namespace Selector

def toBytes (s : Selector) : Bytes := beBytes 4 s.value.toNat

def ofBytes (bs : Bytes) : Selector := ⟨BitVec.ofNat 32 (beValue bs)⟩

end Selector

/-- The 32 bytes of a word. -/
def wordBytes (w : Word) : Bytes := beBytes 32 w.toNat

/-- The word that the first 32 bytes of a byte string hold. -/
def wordOfBytes (bs : Bytes) : Word := BitVec.ofNat 256 (beValue (bs.take 32))

/-! ## Reading a byte string back -/

/-- What `beBytes` writes, `beValue` reads, up to the bytes that did not fit. -/
theorem beValue_beBytes (n v : Nat) : beValue (beBytes n v) = v % twoTo (8 * n) := by
  induction n with
  | zero => exact (Nat.mod_one v).symm
  | succ n ih =>
    rw [beBytes, beValue, ih, length_beBytes, Nat.mul_succ, twoTo_add, Nat.mod_mul]
    have h : (UInt8.ofNat (v / twoTo (8 * n))).toNat = v / twoTo (8 * n) % twoTo 8 := by
      exact UInt8.toNat_ofNat'
    rw [h, Nat.mul_comm, Nat.add_comm]

theorem beValue_lt (bs : Bytes) : beValue bs < twoTo (8 * bs.length) := by
  induction bs with
  | nil => exact Nat.one_pos
  | cons b bs ih =>
    have hb : b.toNat + 1 ≤ twoTo 8 := b.toNat_lt
    have hmul := Nat.mul_le_mul_right (twoTo (8 * bs.length)) hb
    rw [beValue, List.length_cons, Nat.mul_succ, Nat.add_comm (8 * bs.length), twoTo_add]
    rw [Nat.succ_mul] at hmul
    omega

/-- The low bytes of a number do not depend on what is above them. -/
theorem beBytes_add_mul (n q v : Nat) : beBytes n (q * twoTo (8 * n) + v) = beBytes n v := by
  induction n generalizing q with
  | zero => rfl
  | succ n ih =>
    have hsplit : q * twoTo (8 * (n + 1)) = q * twoTo 8 * twoTo (8 * n) := by
      rw [Nat.mul_succ, twoTo_add, Nat.mul_comm (twoTo (8 * n)), Nat.mul_assoc]
    have hdiv : (q * twoTo 8 * twoTo (8 * n) + v) / twoTo (8 * n) =
        v / twoTo (8 * n) + q * twoTo 8 := by
      rw [Nat.add_comm, Nat.add_mul_div_right _ _ (twoTo_pos _)]
    have hbyte :
        UInt8.ofNat (v / twoTo (8 * n) + q * twoTo 8) = UInt8.ofNat (v / twoTo (8 * n)) := by
      apply UInt8.toNat_inj.1
      rw [UInt8.toNat_ofNat', UInt8.toNat_ofNat']
      exact Nat.add_mul_mod_self_right ..
    rw [beBytes, beBytes, hsplit, hdiv, hbyte, ih]

/-- What `beValue` reads, `beBytes` writes. -/
theorem beBytes_beValue (bs : Bytes) : beBytes bs.length (beValue bs) = bs := by
  induction bs with
  | nil => rfl
  | cons b bs ih =>
    have hdiv :
        (b.toNat * twoTo (8 * bs.length) + beValue bs) / twoTo (8 * bs.length) = b.toNat := by
      rw [Nat.add_comm, Nat.add_mul_div_right _ _ (twoTo_pos _), Nat.div_eq_of_lt (beValue_lt bs),
        Nat.zero_add]
    rw [beValue, List.length_cons, beBytes, hdiv, beBytes_add_mul, ih, UInt8.ofNat_toNat]

/-- A value that fills a number of bytes is read back from them. -/
theorem ofNat_beValue_beBytes {n w : Nat} (hw : 8 * n = w) (x : BitVec w) :
    BitVec.ofNat w (beValue (beBytes n x.toNat)) = x := by
  subst hw
  have hx : x.toNat % twoTo (8 * n) = x.toNat := Nat.mod_eq_of_lt x.isLt
  rw [beValue_beBytes, hx, BitVec.ofNat_toNat, BitVec.setWidth_eq]

/-- Bytes are read back from the value that they fill. -/
theorem beBytes_ofNat_beValue {n w : Nat} (hw : 8 * n = w) {bs : Bytes} (h : bs.length = n) :
    beBytes n (BitVec.ofNat w (beValue bs)).toNat = bs := by
  subst hw h
  have hvalue : (BitVec.ofNat (8 * bs.length) (beValue bs)).toNat = beValue bs :=
    Nat.mod_eq_of_lt (beValue_lt bs)
  rw [hvalue, beBytes_beValue]

namespace Address

theorem length_toBytes (a : Address) : a.toBytes.length = 20 := length_beBytes 20 _

theorem ofBytes_toBytes (a : Address) : ofBytes a.toBytes = a := by
  rw [ofBytes, toBytes, ofNat_beValue_beBytes (show 8 * 20 = 160 from rfl)]

theorem toBytes_ofBytes {bs : Bytes} (h : bs.length = 20) : (ofBytes bs).toBytes = bs := by
  rw [ofBytes, toBytes, beBytes_ofNat_beValue (show 8 * 20 = 160 from rfl) h]

end Address

namespace Hash

theorem length_toBytes (h : Hash) : h.toBytes.length = 32 := length_beBytes 32 _

theorem ofBytes_toBytes (h : Hash) : ofBytes h.toBytes = h := by
  rw [ofBytes, toBytes, ofNat_beValue_beBytes (show 8 * 32 = 256 from rfl)]

theorem toBytes_ofBytes {bs : Bytes} (h : bs.length = 32) : (ofBytes bs).toBytes = bs := by
  rw [ofBytes, toBytes, beBytes_ofNat_beValue (show 8 * 32 = 256 from rfl) h]

end Hash

namespace Selector

theorem ofBytes_toBytes (s : Selector) : ofBytes s.toBytes = s := by
  rw [ofBytes, toBytes, ofNat_beValue_beBytes (show 8 * 4 = 32 from rfl)]

theorem toBytes_ofBytes {bs : Bytes} (h : bs.length = 4) : (ofBytes bs).toBytes = bs := by
  rw [ofBytes, toBytes, beBytes_ofNat_beValue (show 8 * 4 = 32 from rfl) h]

end Selector

end NodeFleet

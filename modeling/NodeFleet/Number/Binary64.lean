/-
  Double-precision numbers as bit patterns, with exact arithmetic behind every rounding.

  * `Binary64.View`: what a pattern stands for: nothing, an infinity, or `± m · 2 ^ e`.
  * `Binary64.ofRatio`: the number nearest to a ratio, an exact half going to the even
    pattern; integers and decimals all go through it.
  * `Binary64.ofDecimal`, `Binary64.read?`: the number that a decimal text denotes; `read?_digits`:
    a text of digits, with a point or without, always denotes one.
-/
import NodeFleet.Number.Power

namespace NodeFleet

/-- A double-precision number, by its 64 bits. -/
structure Binary64 where
  bits : BitVec 64
  deriving DecidableEq, Inhabited

namespace Binary64

/-- What a bit pattern stands for. -/
inductive View where
  | nan
  | infinite (negative : Bool)
  /-- `± m · 2 ^ e` -/
  | finite (negative : Bool) (m : Nat) (e : Int)
  deriving DecidableEq

private def pattern (negative : Bool) (rest : Nat) : Binary64 :=
  ⟨BitVec.ofNat 64 ((if negative then twoTo 63 else 0) + rest)⟩

def zero (negative : Bool) : Binary64 := pattern negative 0

def infinity (negative : Bool) : Binary64 := pattern negative (2047 * twoTo 52)

def nan (negative : Bool) : Binary64 := pattern negative (4095 * twoTo 51)

def view (x : Binary64) : View :=
  let n := x.bits.toNat
  let negative := n / twoTo 63 = 1
  let exponent : Nat := n / twoTo 52 % 2048
  let fraction := n % twoTo 52
  if exponent = 2047 then
    if fraction = 0 then .infinite negative else .nan
  else if exponent = 0 then .finite negative fraction (-1074)
  else .finite negative (twoTo 52 + fraction) ((exponent : Int) - 1075)

theorem lt_of_view_eq_finite {x : Binary64} {negative : Bool} {m : Nat} {e : Int}
    (h : x.view = .finite negative m e) : m < twoTo 53 := by
  have hfraction := Nat.mod_lt x.bits.toNat (twoTo_pos 52)
  have hdouble : twoTo 53 = twoTo 52 * 2 := twoTo_succ 52
  simp only [view] at h
  split at h
  · split at h <;> cases h
  · split at h <;> cases h <;> omega

/-- The number `± m · 2 ^ e` for `m ≤ 2 ^ 53`, with `e = -1074` where `m < 2 ^ 52`. -/
def encode (negative : Bool) (m : Nat) (e : Int) : Binary64 :=
  if m < twoTo 52 then pattern negative m
  else
    let (m, e) := if m = twoTo 53 then (twoTo 52, e + 1) else (m, e)
    if e > 971 then infinity negative
    else pattern negative ((e + 1075).toNat * twoTo 52 + (m - twoTo 52))

/-- `num / den` to the nearest integer, an exact half to the even one. -/
def roundEven (num den : Nat) : Nat :=
  let q := num / den
  let r := num % den
  if 2 * r > den ∨ (2 * r = den ∧ q % 2 = 1) then q + 1 else q

/-- The number nearest to `± num / den`. -/
def ofRatio (negative : Bool) (num den : Nat) : Binary64 :=
  if num = 0 then zero negative
  else
    let scaled (e : Int) : Nat × Nat :=
      if e < 0 then (num * twoTo (-e).toNat, den) else (num, den * twoTo e.toNat)
    let low : Int := Nat.log2 num - Nat.log2 den - 53
    let (n, d) := scaled low
    let e := max (if n / d < twoTo 53 then low else low + 1) (-1074)
    let (n, d) := scaled e
    encode negative (roundEven n d) e

def ofNat (n : Nat) : Binary64 := ofRatio false n 1

/-- The number nearest to `± digits · 10 ^ exponent`. -/
def ofDecimal (negative : Bool) (digits : Nat) (exponent : Int) : Binary64 :=
  let size : Int := (Nat.toDigits 10 digits).length
  if digits = 0 then zero negative
  else if size + exponent > 400 then infinity negative
  else if size + exponent < -400 then zero negative
  else if exponent < 0 then ofRatio negative digits (tenTo (-exponent).toNat)
  else ofRatio negative (digits * tenTo exponent.toNat) 1

def isNegative (x : Binary64) : Bool :=
  match x.view with
  | .nan => false
  | .infinite s => s
  | .finite s m _ => s && m != 0

def isFinite (x : Binary64) : Bool :=
  match x.view with
  | .finite .. => true
  | _ => false

/-! ## Reading text -/

private def isDigit (c : Char) : Bool := '0' ≤ c && c ≤ '9'

/-- The value of a run of decimal digits. -/
def digitsValue (cs : List Char) : Nat := cs.foldl (fun n c => 10 * n + (c.toNat - 48)) 0

/-- An optional sign, then what is left. -/
def splitSign : List Char → Bool × List Char
  | '-' :: cs => (true, cs)
  | '+' :: cs => (false, cs)
  | cs => (false, cs)

/-- The exponent part of a numeral: nothing, or a mark and a signed run of digits. -/
def readExponent? : List Char → Option Int
  | [] => some 0
  | c :: cs =>
    if c = 'e' ∨ c = 'E' then
      let (negative, ds) := splitSign cs
      if ds.isEmpty || !ds.all isDigit then none
      else some (if negative then -(digitsValue ds : Int) else digitsValue ds)
    else none

/-- Reads a numeral: sign, digits with at most one point, exponent; or the name of an infinity
    or of the undefined number in letters of either case. -/
def read? (s : String) : Option Binary64 :=
  let (negative, cs) := splitSign s.toList
  let name := String.ofList (cs.map Char.toLower)
  if name = "inf" ∨ name = "infinity" then some (infinity negative)
  else if name = "nan" then some (nan negative)
  else
    let whole := cs.takeWhile isDigit
    let rest := cs.dropWhile isDigit
    let (fraction, rest) := match rest with
      | '.' :: cs => (cs.takeWhile isDigit, cs.dropWhile isDigit)
      | cs => ([], cs)
    if whole.isEmpty && fraction.isEmpty then none
    else (readExponent? rest).map fun e =>
      ofDecimal negative (digitsValue (whole ++ fraction)) (e - fraction.length)

/-! ### Plain digits -/

section
variable {d : Char} (hd : d.isDigit = true)
include hd

theorem splitSign_of_isDigit (cs : List Char) : splitSign (d :: cs) = (false, d :: cs) := by
  unfold splitSign
  split
  · next h => exact absurd ((List.cons.inj h).1 ▸ hd) (by decide)
  · next h => exact absurd ((List.cons.inj h).1 ▸ hd) (by decide)
  · rfl

theorem toLower_of_isDigit : d.toLower = d := by
  unfold Char.toLower
  rw [dif_neg]
  rintro ⟨hupper, -⟩
  have hle : 'A'.toNat ≤ d.toNat := hupper
  exact absurd (Nat.le_trans hle (Char.isDigit_iff_toNat.1 hd).2) (by decide)

/-- No name of a number begins with a digit. -/
theorem ofList_map_toLower_ne {x : Char} (hx : x.isDigit = false) (cs name : List Char) :
    String.ofList ((d :: cs).map Char.toLower) ≠ String.ofList (x :: name) := by
  intro h
  have hhead : d.toLower = x := (List.cons.inj (String.ofList_injective h)).1
  rw [toLower_of_isDigit hd] at hhead
  rw [← hhead, hd] at hx
  cases hx

end

/-- Digits end where something else begins. -/
private theorem span_digits {ds rest : List Char} (h : ∀ c ∈ ds, c.isDigit = true)
    (hrest : ∀ c ∈ rest.head?, c.isDigit = false) :
    (ds ++ rest).takeWhile isDigit = ds ∧ (ds ++ rest).dropWhile isDigit = rest := by
  rw [show isDigit = Char.isDigit from rfl, List.takeWhile_append_of_pos h,
    List.dropWhile_append_of_pos h]
  cases rest with
  | nil => simp
  | cons c rest => simp [hrest c rfl]

/-- Digits in front of a point and behind it are read as the number that they spell. -/
theorem read?_digits {whole rest fraction : List Char} (hne : whole ≠ [])
    (hwhole : ∀ c ∈ whole, c.isDigit = true) (hfraction : ∀ c ∈ fraction, c.isDigit = true)
    (hrest : rest = '.' :: fraction ∨ rest = [] ∧ fraction = []) :
    read? (String.ofList (whole ++ rest)) =
      some (ofDecimal false (digitsValue (whole ++ fraction)) (0 - (fraction.length : Int))) := by
  obtain ⟨d, ds, rfl⟩ := List.exists_cons_of_ne_nil hne
  have hd : d.isDigit = true := hwhole d List.mem_cons_self
  have hsign := splitSign_of_isDigit hd (ds ++ rest)
  have hname (x : Char) (hx : x.isDigit = false) := ofList_map_toLower_ne hd hx (ds ++ rest)
  have hinf : _ ≠ "inf" := hname 'i' (by decide) ['n', 'f']
  have hinfinity : _ ≠ "infinity" := hname 'i' (by decide) ['n', 'f', 'i', 'n', 'i', 't', 'y']
  have hnan : _ ≠ "nan" := hname 'n' (by decide) ['a', 'n']
  have hpoint : ∀ c ∈ rest.head?, c.isDigit = false := by
    rcases hrest with rfl | ⟨rfl, -⟩
    · rintro _ ⟨⟩
      decide
    · exact nofun
  obtain ⟨htake, hdrop⟩ := span_digits hwhole hpoint
  rw [List.cons_append] at htake hdrop
  simp only [read?, List.cons_append, String.toList_ofList, hsign, hinf, hinfinity, hnan, or_self,
    if_false, htake, hdrop]
  rcases hrest with rfl | ⟨rfl, rfl⟩
  · have hend : ∀ c ∈ ([] : List Char).head?, c.isDigit = false := nofun
    obtain ⟨htake', hdrop'⟩ := span_digits hfraction hend
    rw [List.append_nil] at htake' hdrop'
    simp [htake', hdrop', readExponent?]
  · simp [readExponent?]

end Binary64

end NodeFleet

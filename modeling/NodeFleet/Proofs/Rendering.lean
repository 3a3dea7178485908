/-
  Renderings tell values apart.

  * `Address.checksummed_injective`: addresses are told apart by their digits, of whatever case.
  * `Ty.stringless`: a type with no string in it. `Value.cleared`: a value without the bytes that a
    byte string of fixed size does not have; they are not rendered (`render_cleared`).
  * `Apart`: two renderings with texts behind them that agree come from one value and have one
    text behind them. `listed_injective`, `renderList_injective`: so it is of lists of values.
  * `render_eq_iff`: values of a type without strings have one rendering if and only if they are
    the same, whatever names the addresses have.
-/
import NodeFleet.Abi.Render
import NodeFleet.Proofs.Codec
import NodeFleet.Proofs.Documents

namespace NodeFleet

/-! ## Texts with others behind them -/

/-- The two sides of the first mark. -/
theorem append_cons_injective {mark : Char} {xs ys r r' : List Char} (hx : mark ∉ xs)
    (hy : mark ∉ ys) (h : xs ++ mark :: r = ys ++ mark :: r') : xs = ys ∧ r = r' := by
  induction xs generalizing ys with
  | nil =>
    cases ys with
    | nil => exact ⟨rfl, (List.cons.inj h).2⟩
    | cons y ys => exact absurd (List.mem_cons.2 (.inl (List.cons.inj h).1)) hy
  | cons x xs ih =>
    cases ys with
    | nil => exact absurd (List.mem_cons.2 (.inl (List.cons.inj h).1.symm)) hx
    | cons y ys =>
      rw [List.mem_cons, not_or] at hx hy
      obtain ⟨rfl, hrest⟩ := List.cons.inj h
      obtain ⟨rfl, hr⟩ := ih hx.2 hy.2 hrest
      exact ⟨rfl, hr⟩

/-- What can stand behind a value: nothing, or what follows an item of a list. -/
def Ends (r : List Char) : Prop := ∀ c ∈ r.head?, c = ',' ∨ c = ']' ∨ c = ')'

namespace Hex

theorem digit_injective {m n : Nat} (hm : m < 16) (hn : n < 16) (h : digit m = digit n) : m = n := by
  have hvalue := congrArg digitValue? h
  rw [digitValue?_digit m hm, digitValue?_digit n hn] at hvalue
  exact Option.some.inj hvalue

theorem not_ends_encode_cons (b : UInt8) (bs : Bytes) (r : List Char) :
    ¬Ends (encode (b :: bs) ++ r) := by
  have hdigit : ∀ d < 16, digit d ≠ ',' ∧ digit d ≠ ']' ∧ digit d ≠ ')' := by decide
  have hb : b.toNat < 256 := b.toNat_lt
  obtain ⟨hcomma, hsquare, hround⟩ := hdigit (b.toNat / 16) (by omega)
  intro h
  rcases h _ rfl with h | h | h
  · exact hcomma h
  · exact hsquare h
  · exact hround h

/-- Where bytes end is seen from what follows. -/
theorem encode_append_injective {xs ys : Bytes} {r r' : List Char} (hr : Ends r) (hr' : Ends r')
    (h : encode xs ++ r = encode ys ++ r') : xs = ys ∧ r = r' := by
  induction xs generalizing ys with
  | nil =>
    cases ys with
    | nil => exact ⟨rfl, h⟩
    | cons y ys =>
      rw [show r = encode (y :: ys) ++ r' from h] at hr
      exact absurd hr (not_ends_encode_cons y ys r')
  | cons x xs ih =>
    cases ys with
    | nil =>
      rw [show r' = encode (x :: xs) ++ r from h.symm] at hr'
      exact absurd hr' (not_ends_encode_cons x xs r)
    | cons y ys =>
      have hx : x.toNat < 256 := x.toNat_lt
      have hy : y.toNat < 256 := y.toNat_lt
      simp only [encode, List.cons_append, List.cons.injEq] at h
      obtain ⟨hhigh, hlow, h⟩ := h
      have hhigh := digit_injective (by omega) (by omega) hhigh
      have hlow := digit_injective (by omega) (by omega) hlow
      obtain ⟨rfl, hr⟩ := ih h
      have hxy : x = y := UInt8.toNat_inj.1 (by omega)
      exact ⟨by rw [hxy], hr⟩

theorem number_injective {m n : Nat} (h : number m = number n) : m = n := by
  have hvalue := congrArg Json.amountOfText? h
  rw [Json.amountOfText?_number, Json.amountOfText?_number] at hvalue
  exact Option.some.inj hvalue

theorem exists_digitChar_of_mem_toDigits {n : Nat} {c : Char} (h : c ∈ Nat.toDigits 16 n) :
    ∃ d < 16, c = Nat.digitChar d := by
  induction n using Nat.strongRecOn with
  | ind n ih =>
    rw [Nat.toDigits_eq_if (by decide)] at h
    split at h
    · next hsmall => exact ⟨n, hsmall, List.mem_singleton.1 h⟩
    · rcases List.mem_append.1 h with h | h
      · exact ih (n / 16) (by omega) h
      · exact ⟨n % 16, by omega, List.mem_singleton.1 h⟩

theorem round_notMem_number (n : Nat) : ')' ∉ (number n).toList := by
  have hdigit : ∀ d < 16, Nat.digitChar d ≠ ')' := by decide
  have htext : (number n).toList = '0' :: 'x' :: Nat.toDigits 16 n := by simp [number]
  rw [htext, List.mem_cons, List.mem_cons]
  rintro (h | h | h)
  · exact absurd h (by decide)
  · exact absurd h (by decide)
  · obtain ⟨d, hd, h⟩ := exists_digitChar_of_mem_toDigits h
    exact hdigit d hd h.symm

end Hex

/-! ## Addresses -/

namespace Address

theorem length_nibbles (bs : Bytes) : (nibbles bs).length = 2 * bs.length := by
  induction bs with
  | nil => rfl
  | cons b bs ih =>
    rw [nibbles, List.length_cons, List.length_cons, ih, List.length_cons]
    omega

/-- The digits of an address are those of its bytes, but for their case. -/
theorem toList_checksummed (a : Address) : ∃ ds, a.checksummed.toList = '0' :: 'x' :: ds ∧
    ds.length = 40 ∧ ds.map Char.toLower = Hex.encode a.toBytes := by
  have hcase : ∀ d < 16, (Hex.digit d).toLower = Hex.digit d ∧
      (Hex.digit d).toUpper.toLower = Hex.digit d := by decide
  have hlength : (Hex.encode a.toBytes).length = 40 := by
    rw [Hex.length_encode, a.length_toBytes]
  have hnibbles (bs : Bytes) : (nibbles (Keccak.keccak256 bs)).length = 64 := by
    rw [length_nibbles, Keccak.length_keccak256]
  refine ⟨((Hex.encode a.toBytes).zip (nibbles (Keccak.keccak256
    ((Hex.encode a.toBytes).map fun c => UInt8.ofNat c.toNat)))).map fun p =>
      if p.2 ≥ 8 then p.1.toUpper else p.1, by simp [checksummed], ?_, ?_⟩
  · rw [List.length_map, List.length_zip, hlength, hnibbles]
    rfl
  · rw [List.map_map]
    refine Eq.trans (List.map_congr_left fun p hp => ?_)
      (List.map_fst_zip (by rw [hlength, hnibbles]; decide))
    obtain ⟨d, hd, hdigit⟩ := Hex.exists_digit_of_mem_encode (List.of_mem_zip hp).1
    obtain ⟨hlower, hupper⟩ := hcase d hd
    rw [Function.comp_apply, hdigit]
    split
    · exact hupper
    · exact hlower

theorem checksummed_injective {a b : Address} (h : a.checksummed = b.checksummed) : a = b := by
  obtain ⟨ds, ha, -, hds⟩ := a.toList_checksummed
  obtain ⟨ds', hb, -, hds'⟩ := b.toList_checksummed
  obtain rfl : ds = ds' := by
    rw [h, hb] at ha
    exact (List.cons.inj (List.cons.inj ha).2).2.symm
  have hbytes := congrArg (Hex.decodePairs 0) (hds.symm.trans hds')
  rw [Hex.decodePairs_encode, Hex.decodePairs_encode] at hbytes
  rw [← a.ofBytes_toBytes, ← b.ofBytes_toBytes, Except.ok.inj hbytes]

theorem checksummed_append_injective {a b : Address} {r r' : List Char}
    (h : a.checksummed.toList ++ r = b.checksummed.toList ++ r') : a = b ∧ r = r' := by
  obtain ⟨ds, ha, hds, -⟩ := a.toList_checksummed
  obtain ⟨ds', hb, hds', -⟩ := b.toList_checksummed
  have hlength : a.checksummed.toList.length = b.checksummed.toList.length := by
    simp only [ha, hb, List.length_cons, hds, hds']
  obtain ⟨htext, hr⟩ := List.append_inj h hlength
  exact ⟨checksummed_injective (String.toList_inj.1 htext), hr⟩

end Address

namespace Abi

/-! ## Types and values -/

mutual
/-- A type with no string in it. -/
def Ty.stringless : Ty → Bool
  | .string => false
  | .array t => t.stringless
  | .fixedArray t _ => t.stringless
  | .tuple ts => allStringless ts
  | _ => true
def allStringless : List Ty → Bool
  | [] => true
  | t :: ts => t.stringless && allStringless ts
end

theorem allStringless_iff {ts : List Ty} :
    allStringless ts = true ↔ ∀ t ∈ ts, t.stringless = true := by
  induction ts with
  | nil => simp [allStringless]
  | cons t ts ih => simp [allStringless, ih]

mutual
/-- A value with zeros where a byte string of fixed size has no bytes. -/
def Value.cleared : Value → Value
  | .fixedBytes w n => .fixedBytes (wordOfBytes ((wordBytes w).take n ++ List.replicate (32 - n) 0)) n
  | .array vs => .array (clearedEach vs)
  | .fixedArray vs => .fixedArray (clearedEach vs)
  | .tuple vs => .tuple (clearedEach vs)
  | v => v
def clearedEach : List Value → List Value
  | [] => []
  | v :: vs => v.cleared :: clearedEach vs
end

theorem wordBytes_wordOfBytes {bs : Bytes} (h : bs.length = 32) :
    wordBytes (wordOfBytes bs) = bs := by
  rw [wordOfBytes, List.take_of_length_le (Nat.le_of_eq h)]
  exact Hash.toBytes_ofBytes h

theorem take_wordBytes_cleared (w : Word) (n : Nat) :
    (wordBytes (wordOfBytes ((wordBytes w).take n ++ List.replicate (32 - n) 0))).take n =
      (wordBytes w).take n := by
  have hlength : (wordBytes w).length = 32 := length_beBytes 32 _
  have hpadded : ((wordBytes w).take n ++ List.replicate (32 - n) 0).length = 32 := by
    rw [List.length_append, List.length_take, hlength, List.length_replicate]
    omega
  have hnone : min (n - ((wordBytes w).take n).length) (32 - n) = 0 := by
    rw [List.length_take, hlength]
    omega
  rw [wordBytes_wordOfBytes hpadded, List.take_append, List.take_take, Nat.min_self,
    List.take_replicate, hnone, List.replicate_zero, List.append_nil]

mutual
/-- A rendering shows nothing but what a value has when it is cleared. -/
theorem render_cleared (book : AddressBook) : ∀ v : Value, v.cleared.render book = v.render book
  | .fixedBytes w n => by rw [Value.cleared, Value.render, Value.render, take_wordBytes_cleared]
  | .array vs => by rw [Value.cleared, Value.render, Value.render, renderList_cleared book vs]
  | .fixedArray vs => by rw [Value.cleared, Value.render, Value.render, renderList_cleared book vs]
  | .tuple vs => by rw [Value.cleared, Value.render, Value.render, renderList_cleared book vs]
  | .bool _ | .uint _ _ | .int _ _ | .address _ | .function _ | .bytes _ | .string _ => rfl
theorem renderList_cleared (book : AddressBook) :
    ∀ vs : List Value, renderList book (clearedEach vs) = renderList book vs
  | [] => rfl
  | [v] => render_cleared book v
  | v :: w :: vs => by
    have hrest := renderList_cleared book (w :: vs)
    rw [clearedEach] at hrest
    rw [clearedEach, clearedEach, renderList, renderList, render_cleared book v, hrest]
end

/-! ## Reading from the left -/

variable {book : AddressBook} {v w : Value} {vs ws : List Value} {close : Char} {r r' : List Char}

/-- Two values are told apart by their renderings, whatever may stand behind these. -/
def Apart (book : AddressBook) (v w : Value) : Prop :=
  ∀ r r', Ends r → Ends r' → (v.render book).toList ++ r = (w.render book).toList ++ r' →
    v.cleared = w.cleared ∧ r = r'

/-- A text begins with no closing bracket. -/
def Opens (cs : List Char) : Prop := ∃ c rest, cs = c :: rest ∧ c ≠ ']' ∧ c ≠ ')'

/-! ### Integers -/

/-- A text of digits, with a sign or without. -/
def Signed (s : String) : Prop := ∀ c ∈ s.toList, c.isDigit = true ∨ c = '-'

theorem signed_natToString (n : Nat) : Signed (toString n) := by
  intro c hc
  rw [Nat.toString_eq_repr, Nat.toList_repr] at hc
  exact .inl (Nat.isDigit_of_mem_toDigits (by decide) (by decide) hc)

theorem signed_intToString (i : Int) : Signed (toString i) := by
  intro c hc
  rw [Int.toString_eq_repr, Int.repr_eq_if] at hc
  split at hc
  · exact signed_natToString _ c (Nat.toString_eq_repr ▸ hc)
  · rw [String.toList_append, List.mem_append] at hc
    rcases hc with hc | hc
    · exact .inr (List.mem_singleton.1 hc)
    · exact signed_natToString _ c (Nat.toString_eq_repr ▸ hc)

theorem toList_integer (s : String) (n : Nat) :
    (s ++ " (" ++ Hex.number n ++ ")").toList =
      s.toList ++ ' ' :: '(' :: ((Hex.number n).toList ++ [')']) := by
  simp

/-- An integer ends at its closing bracket. -/
theorem integer_append_injective {s s' : String} {m n : Nat} (hs : Signed s) (hs' : Signed s')
    (h : (s ++ " (" ++ Hex.number m ++ ")").toList ++ r =
      (s' ++ " (" ++ Hex.number n ++ ")").toList ++ r') : m = n ∧ r = r' := by
  have hblank {s : String} (hs : Signed s) : ' ' ∉ s.toList := fun hmem => by
    rcases hs ' ' hmem with h | h <;> exact absurd h (by decide)
  simp only [toList_integer, List.append_assoc, List.cons_append] at h
  obtain ⟨-, h⟩ := append_cons_injective (hblank hs) (hblank hs') h
  obtain ⟨hnumber, hr⟩ := append_cons_injective (Hex.round_notMem_number m)
    (Hex.round_notMem_number n) (List.cons.inj h).2
  exact ⟨Hex.number_injective (String.toList_inj.1 hnumber), hr⟩

theorem opens_integer {s : String} (hs : Signed s) (n : Nat) :
    Opens (s ++ " (" ++ Hex.number n ++ ")").toList := by
  rw [toList_integer]
  cases hlist : s.toList with
  | nil => exact ⟨_, _, rfl, by decide, by decide⟩
  | cons c cs =>
    refine ⟨c, _, rfl, ?_, ?_⟩
    all_goals
      rintro rfl
      rcases hs _ (hlist ▸ List.mem_cons_self) with h | h <;> exact absurd h (by decide)

/-! ### Lists -/

/-- The items of a list behind its first, each after a comma. -/
def listed (book : AddressBook) : List Value → List Char
  | [] => []
  | v :: vs => ',' :: ' ' :: ((v.render book).toList ++ listed book vs)

theorem toList_renderList_cons (book : AddressBook) (v : Value) (vs : List Value) :
    (renderList book (v :: vs)).toList = (v.render book).toList ++ listed book vs := by
  induction vs generalizing v with
  | nil => rw [renderList, listed, List.append_nil]
  | cons w ws ih => simp [renderList, ih, listed]

theorem ends_listed (hclose : close = ']' ∨ close = ')') (vs : List Value) :
    Ends (listed book vs ++ close :: r) := by
  intro c hc
  cases vs with
  | nil =>
    cases hc
    exact .inr hclose
  | cons v vs =>
    cases hc
    exact .inl rfl

theorem listed_injective (hclose : close = ']' ∨ close = ')')
    (hapart : ∀ p ∈ vs.zip ws, Apart book p.1 p.2)
    (h : listed book vs ++ close :: r = listed book ws ++ close :: r') :
    clearedEach vs = clearedEach ws ∧ r = r' := by
  have hcomma : close ≠ ',' := by rcases hclose with rfl | rfl <;> decide
  induction vs generalizing ws with
  | nil =>
    cases ws with
    | nil => exact ⟨rfl, (List.cons.inj h).2⟩
    | cons w ws => exact absurd (List.cons.inj h).1 hcomma
  | cons v vs ih =>
    cases ws with
    | nil => exact absurd (List.cons.inj h).1.symm hcomma
    | cons w ws =>
      simp only [listed, List.cons_append, List.append_assoc, List.cons.injEq, true_and] at h
      obtain ⟨hvw, hrest⟩ := List.forall_mem_cons.1 hapart
      obtain ⟨hv, h⟩ := hvw _ _ (ends_listed hclose vs) (ends_listed hclose ws) h
      obtain ⟨hvs, hr⟩ := ih hrest h
      exact ⟨by rw [clearedEach, clearedEach, hv, hvs], hr⟩

/-- A list is read from the left: an item, and what the comma or the bracket behind it says. -/
theorem renderList_injective (hclose : close = ']' ∨ close = ')')
    (hvs : ∀ v ∈ vs, Opens (v.render book).toList) (hws : ∀ w ∈ ws, Opens (w.render book).toList)
    (hapart : ∀ p ∈ vs.zip ws, Apart book p.1 p.2)
    (h : (renderList book vs).toList ++ close :: r = (renderList book ws).toList ++ close :: r') :
    clearedEach vs = clearedEach ws ∧ r = r' := by
  have hempty {v : Value} (hv : Opens (v.render book).toList) {x y z : List Char} :
      close :: x ≠ (v.render book).toList ++ y ++ z := by
    obtain ⟨c, rest, hrender, hsquare, hround⟩ := hv
    rw [hrender]
    intro heq
    obtain rfl : close = c := (List.cons.inj heq).1
    exact hclose.elim hsquare hround
  cases vs with
  | nil =>
    cases ws with
    | nil => exact ⟨rfl, (List.cons.inj h).2⟩
    | cons w ws =>
      rw [toList_renderList_cons] at h
      exact absurd h (hempty (hws w List.mem_cons_self))
  | cons v vs =>
    cases ws with
    | nil =>
      rw [toList_renderList_cons] at h
      exact absurd h.symm (hempty (hvs v List.mem_cons_self))
    | cons w ws =>
      rw [toList_renderList_cons, toList_renderList_cons, List.append_assoc, List.append_assoc] at h
      obtain ⟨hvw, hrest⟩ := List.forall_mem_cons.1 hapart
      obtain ⟨hv, h⟩ := hvw _ _ (ends_listed hclose vs) (ends_listed hclose ws) h
      obtain ⟨hvs, hr⟩ := listed_injective hclose hrest h
      exact ⟨by rw [clearedEach, clearedEach, hv, hvs], hr⟩

/-! ### Values -/

theorem opens_render {t : Ty} (ht : t.stringless = true) (hv : t.admits v = true) :
    Opens (v.render book).toList := by
  cases v with
  | bool b =>
    cases b with
    | true => exact ⟨'t', ['r', 'u', 'e'], by simp [Value.render], by decide, by decide⟩
    | false => exact ⟨'f', ['a', 'l', 's', 'e'], by simp [Value.render], by decide, by decide⟩
  | uint w n => exact opens_integer (signed_natToString _) _
  | int w n => exact opens_integer (signed_intToString _) _
  | address a =>
    obtain ⟨ds, ha, -⟩ := a.toList_checksummed
    exact ⟨'0', _, by simp only [Value.render, String.toList_append, ha]; rfl, by decide, by decide⟩
  | fixedBytes w n => exact ⟨'0', _, Json.toList_prefixed _, by decide, by decide⟩
  | function f => exact ⟨'0', _, Json.toList_prefixed _, by decide, by decide⟩
  | bytes bs => exact ⟨'0', _, Json.toList_prefixed _, by decide, by decide⟩
  | string s => cases t <;> simp [Ty.admits, Ty.stringless] at hv ht
  | array vs => exact ⟨'[', _, by simp [Value.render]; rfl, by decide, by decide⟩
  | fixedArray vs => exact ⟨'[', _, by simp [Value.render]; rfl, by decide, by decide⟩
  | tuple vs => exact ⟨'(', _, by simp [Value.render]; rfl, by decide, by decide⟩

theorem apart_bool (book : AddressBook) (b b' : Bool) : Apart book (.bool b) (.bool b') := by
  intro r r' _ _ h
  cases b <;> cases b' <;> simp [Value.render] at h ⊢
  all_goals exact h

theorem apart_uint (book : AddressBook) (x y : Word) (n : Nat) :
    Apart book (.uint x n) (.uint y n) := by
  intro r r' _ _ h
  obtain ⟨hword, hr⟩ := integer_append_injective (signed_natToString _) (signed_natToString _) h
  exact ⟨by rw [BitVec.eq_of_toNat_eq hword], hr⟩

theorem apart_int (book : AddressBook) (x y : Word) (n : Nat) :
    Apart book (.int x n) (.int y n) := by
  intro r r' _ _ h
  obtain ⟨hword, hr⟩ := integer_append_injective (signed_intToString _) (signed_intToString _) h
  exact ⟨by rw [BitVec.eq_of_toNat_eq hword], hr⟩

/-- The digits of an address have one number; with the address its name is known. -/
theorem apart_address (book : AddressBook) (a b : Address) :
    Apart book (.address a) (.address b) := by
  intro r r' _ _ h
  simp only [Value.render, String.toList_append, List.append_assoc] at h
  obtain ⟨rfl, hname⟩ := Address.checksummed_append_injective h
  exact ⟨rfl, by simpa using hname⟩

theorem apart_prefixed {bs bs' : Bytes} (hv : v.render book = Hex.prefixed bs)
    (hw : w.render book = Hex.prefixed bs') (h : bs = bs' → v.cleared = w.cleared) :
    Apart book v w := by
  intro r r' hr hr' heq
  rw [hv, hw, Json.toList_prefixed, Json.toList_prefixed] at heq
  obtain ⟨hbytes, hrest⟩ :=
    Hex.encode_append_injective hr hr' (List.cons.inj (List.cons.inj heq).2).2
  exact ⟨h hbytes, hrest⟩

theorem apart_fixedBytes (book : AddressBook) (x y : Word) (n : Nat) :
    Apart book (.fixedBytes x n) (.fixedBytes y n) :=
  apart_prefixed rfl rfl fun h => by rw [Value.cleared, Value.cleared, h]

theorem apart_function (book : AddressBook) (f g : BitVec 192) :
    Apart book (.function f) (.function g) := by
  refine apart_prefixed rfl rfl fun h => ?_
  have hvalue := congrArg beValue h
  rw [beValue_beBytes, beValue_beBytes, show twoTo (8 * 24) = 2 ^ 192 from rfl,
    Nat.mod_eq_of_lt f.isLt, Nat.mod_eq_of_lt g.isLt] at hvalue
  rw [BitVec.eq_of_toNat_eq hvalue]

/-- Arrays of a type are told apart if its values are, of whatever length they are. -/
theorem items_injective {t : Ty} (ht : t.stringless = true)
    (hvs : ∀ v ∈ vs, t.admits v = true) (hws : ∀ w ∈ ws, t.admits w = true)
    (hapart : ∀ v w, t.admits v = true → t.admits w = true → Apart book v w)
    (h : (renderList book vs).toList ++ ']' :: r = (renderList book ws).toList ++ ']' :: r') :
    clearedEach vs = clearedEach ws ∧ r = r' := by
  refine renderList_injective (.inl rfl) (fun v hv => opens_render ht (hvs v hv))
    (fun w hw => opens_render ht (hws w hw)) (fun p hp => ?_) h
  obtain ⟨hv, hw⟩ := List.of_mem_zip hp
  exact hapart _ _ (hvs _ hv) (hws _ hw)

theorem opens_of_mem {ts : List Ty} (hts : ∀ t ∈ ts, t.stringless = true)
    (hvs : List.Forall₂ (fun t v => t.admits v = true) ts vs) :
    ∀ v ∈ vs, Opens (v.render book).toList := by
  induction hvs with
  | nil => exact nofun
  | cons hv _ ih =>
    obtain ⟨ht, hts⟩ := List.forall_mem_cons.1 hts
    exact List.forall_mem_cons.2 ⟨opens_render ht hv, ih hts⟩

/-- Tuples are told apart if the values of each of their types are. -/
theorem fields_injective {ts : List Ty} (hts : ∀ t ∈ ts, t.stringless = true)
    (hvs : List.Forall₂ (fun t v => t.admits v = true) ts vs)
    (hws : List.Forall₂ (fun t w => t.admits w = true) ts ws)
    (hapart : ∀ t ∈ ts, ∀ v w, t.admits v = true → t.admits w = true → Apart book v w)
    (h : (renderList book vs).toList ++ ')' :: r = (renderList book ws).toList ++ ')' :: r') :
    clearedEach vs = clearedEach ws ∧ r = r' := by
  refine renderList_injective (.inr rfl) (opens_of_mem hts hvs) (opens_of_mem hts hws) ?_ h
  clear h hts
  induction hvs generalizing ws with
  | nil => exact nofun
  | cons hv _ ih =>
    cases hws with
    | cons hw hws =>
      obtain ⟨ht, hts⟩ := List.forall_mem_cons.1 hapart
      exact List.forall_mem_cons.2 ⟨ht _ _ hv hw, ih hws hts⟩

/-- Values of a type without strings are told apart, by induction on the type. -/
theorem apart_of_admits (book : AddressBook) {t : Ty} (ht : t.stringless = true) :
    ∀ v w, t.admits v = true → t.admits w = true → Apart book v w := by
  induction t using Ty.induction with
  | bool =>
    intro v w hv hw
    cases v <;> simp only [Ty.admits, Bool.false_eq_true] at hv
    cases w <;> simp only [Ty.admits, Bool.false_eq_true] at hw
    exact apart_bool book _ _
  | uint n =>
    intro v w hv hw
    cases v <;> simp only [Ty.admits, Bool.false_eq_true, beq_iff_eq] at hv
    cases w <;> simp only [Ty.admits, Bool.false_eq_true, beq_iff_eq] at hw
    subst hv hw
    exact apart_uint book _ _ _
  | int n =>
    intro v w hv hw
    cases v <;> simp only [Ty.admits, Bool.false_eq_true, beq_iff_eq] at hv
    cases w <;> simp only [Ty.admits, Bool.false_eq_true, beq_iff_eq] at hw
    subst hv hw
    exact apart_int book _ _ _
  | address =>
    intro v w hv hw
    cases v <;> simp only [Ty.admits, Bool.false_eq_true] at hv
    cases w <;> simp only [Ty.admits, Bool.false_eq_true] at hw
    exact apart_address book _ _
  | fixedBytes n =>
    intro v w hv hw
    cases v <;> simp only [Ty.admits, Bool.false_eq_true, beq_iff_eq] at hv
    cases w <;> simp only [Ty.admits, Bool.false_eq_true, beq_iff_eq] at hw
    subst hv hw
    exact apart_fixedBytes book _ _ _
  | function =>
    intro v w hv hw
    cases v <;> simp only [Ty.admits, Bool.false_eq_true] at hv
    cases w <;> simp only [Ty.admits, Bool.false_eq_true] at hw
    exact apart_function book _ _
  | bytes =>
    intro v w hv hw
    cases v <;> simp only [Ty.admits, Bool.false_eq_true] at hv
    cases w <;> simp only [Ty.admits, Bool.false_eq_true] at hw
    exact apart_prefixed rfl rfl fun h => by rw [h]
  | string => cases ht
  | array t ih =>
    intro v w hv hw r r' _ _ h
    obtain ⟨vs, rfl, hvs⟩ := Ty.admits_array_iff.1 hv
    obtain ⟨ws, rfl, hws⟩ := Ty.admits_array_iff.1 hw
    simp only [Value.render, String.toList_append, List.append_assoc] at h
    obtain ⟨hitems, hr⟩ := items_injective (t := t) ht hvs hws (ih ht) (List.cons.inj h).2
    exact ⟨by rw [Value.cleared, Value.cleared, hitems], List.append_cancel_left hr⟩
  | fixedArray t n ih =>
    intro v w hv hw r r' _ _ h
    obtain ⟨vs, rfl, -, hvs⟩ := Ty.admits_fixedArray_iff.1 hv
    obtain ⟨ws, rfl, -, hws⟩ := Ty.admits_fixedArray_iff.1 hw
    simp only [Value.render, String.toList_append, List.append_assoc] at h
    obtain ⟨hitems, hr⟩ := items_injective (t := t) ht hvs hws (ih ht) (List.cons.inj h).2
    exact ⟨by rw [Value.cleared, Value.cleared, hitems], List.append_cancel_left hr⟩
  | tuple ts ih =>
    intro v w hv hw r r' _ _ h
    obtain ⟨vs, rfl, hvs⟩ := Ty.admits_tuple_iff.1 hv
    obtain ⟨ws, rfl, hws⟩ := Ty.admits_tuple_iff.1 hw
    have hts := allStringless_iff.1 ht
    simp only [Value.render, String.toList_append, List.append_assoc] at h
    obtain ⟨hitems, hr⟩ := fields_injective hts hvs hws (fun t hmem => ih t hmem (hts t hmem))
      (List.cons.inj h).2
    exact ⟨by rw [Value.cleared, Value.cleared, hitems], hr⟩

/-- **Renderings are unambiguous.** Whatever names a book gives to addresses, two values of a type
    without strings have one rendering if and only if they are the same, where byte strings of
    fixed size are compared on the bytes they have. -/
theorem render_eq_iff (book : AddressBook) {t : Ty} (ht : t.stringless = true)
    (hv : t.admits v = true) (hw : t.admits w = true) :
    v.render book = w.render book ↔ v.cleared = w.cleared := by
  constructor
  · intro h
    refine (apart_of_admits book ht v w hv hw [] [] nofun nofun ?_).1
    rw [h]
  · intro h
    rw [← render_cleared book v, h, render_cleared book w]

/-- An address whose name has the marks of a list in it, once and twice; and four bytes, of which
    the word behind them is not rendered. -/
theorem render_eq_iff_of_marked_name :
    (Ty.tuple [.array .address, .fixedBytes 4]).stringless = true ∧
      Value.render (AddressBook.empty.register .zero "a), 0x")
          (.tuple [.array [.address .zero], .fixedBytes 0 4]) =
        Value.render (AddressBook.empty.register .zero "a), 0x")
          (.tuple [.array [.address .zero], .fixedBytes 1 4]) ∧
      Value.render (AddressBook.empty.register .zero "a), 0x")
          (.tuple [.array [.address .zero], .fixedBytes 0 4]) ≠
        Value.render (AddressBook.empty.register .zero "a), 0x")
          (.tuple [.array [.address .zero, .address .zero], .fixedBytes 0 4]) := by
  have ht : (Ty.tuple [.array .address, .fixedBytes 4]).stringless = true := rfl
  have hadmits (vs : List Value) (w : Word) (h : vs.all Ty.address.admits = true) :
      (Ty.tuple [.array .address, .fixedBytes 4]).admits
        (.tuple [.array vs, .fixedBytes w 4]) = true := by
    simp [Ty.admits, admitsEach] at h ⊢
    exact h
  refine ⟨ht, ?_, fun h => ?_⟩
  · exact (render_eq_iff _ ht (hadmits _ _ rfl) (hadmits _ _ rfl)).2 (by rfl)
  · have hcleared := (render_eq_iff _ ht (hadmits _ _ rfl) (hadmits _ _ rfl)).1 h
    simp [Value.cleared, clearedEach] at hcleared

end Abi

end NodeFleet

/-
  Which texts are hexadecimal, and of what.

  * `Hex.Spells`: digits that spell bytes, two for each, in letters of either case.
    `exists_spells_iff`: every even number of digits spells something.
  * `Hex.Writes`: digits that spell bytes, with a mark in front or without one.
  * `decodeChars_eq_ok_iff`, `decodeFixed_eq_ok_iff`: just these texts are read, and of just these
    bytes; `Address.parse_eq_ok_iff`: the texts that are addresses.
-/
import NodeFleet.Address
import Mathlib.Data.List.Basic

namespace NodeFleet

namespace Hex

variable {c : Char} {n : ℕ} {cs : List Char} {bs : Bytes}

/-! ## Digits -/

/-- The digits, with letters of either case. -/
def digits : List Char :=
  ['0', '1', '2', '3', '4', '5', '6', '7', '8', '9', 'a', 'b', 'c', 'd', 'e', 'f',
   'A', 'B', 'C', 'D', 'E', 'F']

/-- What is checked digit by digit. -/
theorem forall_digits {p : Char → Prop} [DecidablePred p] (h : digits.all (p ·) = true) :
    ∀ d ∈ digits, p d := by
  simpa only [List.all_eq_true, decide_eq_true_eq] using h

private theorem lt_of_digitValue? (h : digitValue? c = some n) : c.toNat < 128 := by
  have hle (d : Char) (hd : c ≤ d) : c.toNat ≤ d.toNat := hd
  unfold digitValue? at h
  split_ifs at h with h₁ h₂ h₃
  · exact Nat.lt_of_le_of_lt (hle _ h₁.2) (by decide)
  · exact Nat.lt_of_le_of_lt (hle _ h₂.2) (by decide)
  · exact Nat.lt_of_le_of_lt (hle _ h₃.2) (by decide)

private theorem toLower_of_le (h : 128 ≤ c.toNat) : c.toLower = c := by
  unfold Char.toLower
  rw [dif_neg]
  rintro ⟨-, hupper⟩
  have hle : c.toNat ≤ 'Z'.toNat := hupper
  exact absurd (Nat.le_trans h hle) (by decide)

private theorem digitValue?_ascii : ∀ k : Fin 128, ∀ n : Fin 16,
    digitValue? (Char.ofNat k) = some n.val ↔ (Char.ofNat k).toLower = digit n := by
  decide +kernel

private theorem digits_ascii : ∀ k : Fin 128,
    (∀ n ∈ digitValue? (Char.ofNat k), n < 16) ∧
      ((digitValue? (Char.ofNat k)).isSome = true ↔ Char.ofNat k ∈ digits) := by
  decide +kernel

theorem digitValue?_eq_some_iff : digitValue? c = some n ↔ n < 16 ∧ c.toLower = digit n := by
  have hc := c.ofNat_toNat
  constructor
  · intro h
    have hascii := lt_of_digitValue? h
    rw [← hc] at h ⊢
    have hn := (digits_ascii ⟨c.toNat, hascii⟩).1 n h
    exact ⟨hn, (digitValue?_ascii ⟨c.toNat, hascii⟩ ⟨n, hn⟩).1 h⟩
  · rintro ⟨hn, h⟩
    by_cases hascii : c.toNat < 128
    · rw [← hc] at h ⊢
      exact (digitValue?_ascii ⟨c.toNat, hascii⟩ ⟨n, hn⟩).2 h
    · rw [toLower_of_le (Nat.not_lt.1 hascii)] at h
      have hdigit : ∀ k : Fin 16, (digit k).toNat < 128 := by decide
      exact absurd (hdigit ⟨n, hn⟩) (h ▸ hascii)

theorem isSome_digitValue?_iff : (digitValue? c).isSome = true ↔ c ∈ digits := by
  have hascii : c.toNat < 128 → ((digitValue? c).isSome = true ↔ c ∈ digits) := fun h => by
    have := (digits_ascii ⟨c.toNat, h⟩).2
    rwa [c.ofNat_toNat] at this
  constructor
  · intro h
    obtain ⟨n, hn⟩ := Option.isSome_iff_exists.1 h
    exact (hascii (lt_of_digitValue? hn)).1 h
  · intro h
    have hdigits : ∀ d ∈ digits, d.toNat < 128 := forall_digits (by decide)
    exact (hascii (hdigits c h)).2 h

/-! ## Digits of bytes -/

/-- But for the case of letters, these are the digits that the bytes are written with. -/
def Spells (cs : List Char) (bs : Bytes) : Prop := cs.map Char.toLower = encode bs

theorem Spells.map_toLower (h : Spells cs bs) : cs.map Char.toLower = encode bs := h

theorem spells_cons_cons_iff {a b : Char} : Spells (a :: b :: cs) bs ↔
    ∃ x y rest, digitValue? a = some x ∧ digitValue? b = some y ∧ Spells cs rest ∧
      bs = UInt8.ofNat (16 * x + y) :: rest := by
  constructor
  · intro h
    rcases bs with _ | ⟨u, rest⟩
    · cases h
    · obtain ⟨ha, hb, hcs⟩ : a.toLower = digit (u.toNat / 16) ∧
          b.toLower = digit (u.toNat % 16) ∧ cs.map Char.toLower = encode rest := by
        simpa [Spells, encode] using h
      have hu : u.toNat < 256 := u.toNat_lt
      refine ⟨u.toNat / 16, u.toNat % 16, rest, digitValue?_eq_some_iff.2 ⟨by omega, ha⟩,
        digitValue?_eq_some_iff.2 ⟨by omega, hb⟩, hcs, ?_⟩
      rw [Nat.div_add_mod, UInt8.ofNat_toNat]
  · rintro ⟨x, y, rest, ha, hb, hcs, rfl⟩
    obtain ⟨hx, ha⟩ := digitValue?_eq_some_iff.1 ha
    obtain ⟨hy, hb⟩ := digitValue?_eq_some_iff.1 hb
    have hvalue : (UInt8.ofNat (16 * x + y)).toNat = 16 * x + y :=
      UInt8.toNat_ofNat_of_lt' (by rw [UInt8.size]; omega)
    have hhigh : (16 * x + y) / 16 = x := by omega
    have hlow : (16 * x + y) % 16 = y := by omega
    rw [Spells, List.map_cons, List.map_cons, ha, hb, hcs, encode, hvalue, hhigh, hlow]

theorem decodePairs_eq_ok_iff {i : ℕ} : decodePairs i cs = .ok bs ↔ Spells cs bs := by
  induction i, cs using decodePairs.induct generalizing bs with
  | case1 i =>
    rw [decodePairs, Except.ok.injEq]
    cases bs <;> simp [Spells, encode]
  | case2 i a ha | case3 i a ha =>
    cases bs <;> simp [decodePairs, ha, Spells, encode]
  | case4 i a b rest ha =>
    simp [decodePairs, spells_cons_cons_iff, ha]
  | case5 i a b rest x ha hb =>
    simp [decodePairs, spells_cons_cons_iff, ha, hb]
  | case6 i a b rest x y hb ha ih =>
    rw [decodePairs, ha, hb, spells_cons_cons_iff]
    constructor
    · intro h
      cases hrest : decodePairs (i + 2) rest with
      | error e =>
        rw [hrest] at h
        cases h
      | ok out =>
        rw [hrest] at h
        cases h
        exact ⟨x, y, out, ha, hb, ih.1 hrest, rfl⟩
    · rintro ⟨x', y', out, hx, hy, hout, rfl⟩
      rw [ha, Option.some.injEq] at hx
      rw [hb, Option.some.injEq] at hy
      subst hx hy
      rw [ih.2 hout]
      rfl

/-- Digits spell only one thing. -/
theorem Spells.unique {bs' : Bytes} (h : Spells cs bs) (h' : Spells cs bs') : bs = bs' :=
  Except.ok.inj ((decodePairs_eq_ok_iff.2 h).symm.trans ((@decodePairs_eq_ok_iff _ _ 0).2 h'))

theorem Spells.length_eq (h : Spells cs bs) : cs.length = 2 * bs.length := by
  rw [← length_encode, ← h.map_toLower, List.length_map]

theorem Spells.mem_digits (h : Spells cs bs) (hc : c ∈ cs) : c ∈ digits := by
  have hmem : c.toLower ∈ encode bs := by
    rw [← h.map_toLower]
    exact List.mem_map_of_mem hc
  obtain ⟨n, hn, hdigit⟩ := exists_digit_of_mem_encode hmem
  exact isSome_digitValue?_iff.1 (Option.isSome_of_eq_some (digitValue?_eq_some_iff.2 ⟨hn, hdigit⟩))

/-- The digits that bytes are written with are small. -/
theorem spells_encode (bs : Bytes) : Spells (encode bs) bs := by
  have hlower : ∀ c ∈ encode bs, c.toLower = c := by
    intro c hc
    obtain ⟨n, hn, rfl⟩ := exists_digit_of_mem_encode hc
    have hdigit : ∀ n < 16, (digit n).toLower = digit n := by decide
    exact hdigit n hn
  rw [Spells, List.map_congr_left hlower, List.map_id']

theorem exists_spells : ∀ {cs : List Char}, cs.length % 2 = 0 → (∀ c ∈ cs, c ∈ digits) →
    ∃ bs, Spells cs bs
  | [], _, _ => ⟨[], rfl⟩
  | [_], heven, _ => absurd heven Nat.one_ne_zero
  | a :: b :: cs, heven, hdigits => by
    obtain ⟨ha, hdigits⟩ := List.forall_mem_cons.1 hdigits
    obtain ⟨hb, hdigits⟩ := List.forall_mem_cons.1 hdigits
    obtain ⟨x, hx⟩ := Option.isSome_iff_exists.1 (isSome_digitValue?_iff.2 ha)
    obtain ⟨y, hy⟩ := Option.isSome_iff_exists.1 (isSome_digitValue?_iff.2 hb)
    obtain ⟨bs, hbs⟩ := exists_spells (by simpa [Nat.add_assoc] using heven) hdigits
    exact ⟨_, spells_cons_cons_iff.2 ⟨x, y, bs, hx, hy, hbs, rfl⟩⟩

/-- An even number of digits spells bytes, and nothing else does. -/
theorem exists_spells_iff :
    (∃ bs, Spells cs bs) ↔ cs.length % 2 = 0 ∧ ∀ c ∈ cs, c ∈ digits := by
  constructor
  · rintro ⟨bs, h⟩
    exact ⟨by rw [h.length_eq, Nat.mul_mod_right], fun c hc => h.mem_digits hc⟩
  · rintro ⟨heven, hdigits⟩
    exact exists_spells heven hdigits

/-! ## Texts -/

/-- The marks that may stand in front of digits. -/
def marks : List (List Char) := [[], ['0', 'x'], ['0', 'X']]

/-- Digits that spell bytes stand behind a mark. -/
def Writes (cs : List Char) (bs : Bytes) : Prop :=
  ∃ mark ∈ marks, ∃ ds, cs = mark ++ ds ∧ Spells ds bs

theorem writes_text (bs : Bytes) : Writes (text bs).toList bs :=
  ⟨[], by decide, encode bs, String.toList_ofList, spells_encode bs⟩

theorem writes_prefixed (bs : Bytes) : Writes (prefixed bs).toList bs :=
  ⟨['0', 'x'], by decide, encode bs, by simp [prefixed, text], spells_encode bs⟩

theorem stripMark_append {mark ds : List Char} (hmark : mark ∈ marks)
    (hds : ∀ c ∈ ds, c ∈ digits) : stripMark (mark ++ ds) = ds := by
  simp only [marks, List.mem_cons, List.not_mem_nil, or_false] at hmark
  rcases hmark with rfl | rfl | rfl
  · rw [List.nil_append]
    unfold stripMark
    split
    · exact absurd (hds 'x' (by simp)) (by decide)
    · exact absurd (hds 'X' (by simp)) (by decide)
    · rfl
  · rfl
  · rfl

theorem exists_mark (cs : List Char) : ∃ mark ∈ marks, cs = mark ++ stripMark cs := by
  unfold stripMark
  split
  · exact ⟨['0', 'x'], by decide, rfl⟩
  · exact ⟨['0', 'X'], by decide, rfl⟩
  · exact ⟨[], by decide, rfl⟩

/-- The mark does not count, and there is only one way to leave it out. -/
theorem writes_iff : Writes cs bs ↔ Spells (stripMark cs) bs := by
  constructor
  · rintro ⟨mark, hmark, ds, rfl, h⟩
    rwa [stripMark_append hmark fun c hc => h.mem_digits hc]
  · intro h
    obtain ⟨mark, hmark, hcs⟩ := exists_mark cs
    exact ⟨mark, hmark, _, hcs, h⟩

theorem Spells.encodedSize_eq (h : Spells cs bs) : encodedSize cs = 2 * bs.length := by
  have hsize : ∀ ds : List Char, (∀ c ∈ ds, c ∈ digits) → encodedSize ds = ds.length := by
    intro ds hds
    induction ds with
    | nil => rfl
    | cons d ds ih =>
      obtain ⟨hd, hds⟩ := List.forall_mem_cons.1 hds
      have hone : ∀ c ∈ digits, c.utf8Size = 1 := forall_digits (by decide)
      rw [encodedSize, hone d hd, ih hds, List.length_cons, Nat.add_comm]
  rw [hsize cs fun c hc => h.mem_digits hc, h.length_eq]

theorem decodeChars_eq_ok_iff : decodeChars cs = .ok bs ↔ Writes cs bs := by
  rw [writes_iff, decodeChars]
  constructor
  · intro h
    split_ifs at h
    exact decodePairs_eq_ok_iff.1 h
  · intro h
    rw [if_neg (by rw [h.encodedSize_eq]; omega), decodePairs_eq_ok_iff.2 h]

theorem decodeFixed_eq_ok_iff {s : String} :
    decodeFixed n s = .ok bs ↔ Writes s.toList bs ∧ bs.length = n := by
  rw [writes_iff, decodeFixed]
  constructor
  · intro h
    split_ifs at h with hodd hlength
    have hspells := decodePairs_eq_ok_iff.1 h
    rw [hspells.encodedSize_eq] at hlength
    exact ⟨hspells, by omega⟩
  · rintro ⟨h, rfl⟩
    rw [if_neg (by rw [h.encodedSize_eq]; omega), if_neg (not_not.2 h.encodedSize_eq),
      decodePairs_eq_ok_iff.2 h]

end Hex

/-- A text is an address if it writes the bytes of this address. -/
theorem Address.parse_eq_ok_iff {s : String} {a : Address} :
    Address.parse s = .ok a ↔ Hex.Writes s.toList a.toBytes := by
  rw [Address.parse]
  constructor
  · intro h
    cases hbytes : Hex.decodeFixed 20 s with
    | error e =>
      rw [hbytes] at h
      cases h
    | ok bs =>
      obtain ⟨hwrites, hlength⟩ := Hex.decodeFixed_eq_ok_iff.1 hbytes
      rw [hbytes] at h
      cases h
      rwa [toBytes_ofBytes hlength]
  · intro h
    rw [Hex.decodeFixed_eq_ok_iff.2 ⟨h, a.length_toBytes⟩]
    exact congrArg Except.ok a.ofBytes_toBytes

end NodeFleet

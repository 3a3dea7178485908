/-
  Nested lists of byte strings and their bytes.

  * `beValue_minBytes`, `length_minBytes_le_iff`: a number is read back from the fewest bytes that
    hold it.
  * `header_eq`: what stands in front of a payload, a mark and the bytes of its size.
  * `Item.decode?_encode`: every item is read back from its bytes, whatever stands behind them.
  * `encodeBytes_append_inj`, `encode_list_inj`: without a reader, and for payloads of any size,
    bytes that are the same are those of the same payloads.
-/
import NodeFleet.Transaction.Rlp
import Mathlib.Tactic.SplitIfs

namespace NodeFleet

/-! ## Numbers in the fewest bytes -/

theorem length_minBytes_le_iff {v n : Nat} : (minBytes v).length ≤ n ↔ v < twoTo (8 * n) := by
  unfold minBytes
  split_ifs with hv
  · simp [hv, twoTo_pos]
  · rw [length_beBytes]
    refine Iff.trans ?_ (Nat.log2_lt hv)
    omega

theorem beValue_minBytes (v : Nat) : beValue (minBytes v) = v := by
  have hlt : v < twoTo (8 * (minBytes v).length) := length_minBytes_le_iff.1 (Nat.le_refl _)
  revert hlt
  unfold minBytes
  split_ifs with hv
  · intro _
    rw [hv]
    rfl
  · intro hlt
    rw [length_beBytes] at hlt
    rw [beValue_beBytes, Nat.mod_eq_of_lt hlt]

theorem minBytes_inj {m n : Nat} (h : minBytes m = minBytes n) : m = n := by
  rw [← beValue_minBytes m, h, beValue_minBytes]

theorem head_minBytes_ne_zero {v : Nat} {b : UInt8} {bs : Bytes} (h : minBytes v = b :: bs) :
    b ≠ 0 := by
  rintro rfl
  have hv : v = beValue bs := by
    rw [← beValue_minBytes v, h, beValue]
    simp
  have hle : (minBytes v).length ≤ bs.length := length_minBytes_le_iff.2 (hv ▸ beValue_lt bs)
  rw [h, List.length_cons] at hle
  omega

theorem one_le_length_minBytes {n : Nat} (h : n ≠ 0) : 1 ≤ (minBytes n).length := by
  refine Nat.pos_of_ne_zero fun hnone => h ?_
  exact Nat.lt_one_iff.1 (length_minBytes_le_iff.1 (Nat.le_of_eq hnone) : n < twoTo (8 * 0))

theorem length_minBytes_mono {m n : Nat} (h : m ≤ n) :
    (minBytes m).length ≤ (minBytes n).length :=
  length_minBytes_le_iff.2 (Nat.lt_of_le_of_lt h (length_minBytes_le_iff.1 (Nat.le_refl _)))

namespace Rlp

@[simp] theorem Item.nat?_ofNat (n : Nat) : (Item.ofNat n).nat? = some n := by
  have hvalue := beValue_minBytes n
  rw [ofNat]
  cases hbytes : minBytes n with
  | nil =>
    rw [hbytes] at hvalue
    exact congrArg some hvalue
  | cons b bs =>
    rw [nat?, if_neg (head_minBytes_ne_zero hbytes), ← hbytes, hvalue]

/-! ## Headers -/

/-- What the first byte of a header adds to its base: the size of a short payload, and how many
    bytes tell the size of a long one. -/
def sizeMark (size : Nat) : Nat := if size < 56 then size else 55 + (minBytes size).length

/-- The bytes that tell the size of a long payload. -/
def sizeBytes (size : Nat) : Bytes := if size < 56 then [] else minBytes size

theorem header_eq (base size : Nat) :
    header base size = UInt8.ofNat (base + sizeMark size) :: sizeBytes size := by
  unfold header sizeMark sizeBytes
  split_ifs
  · rfl
  · dsimp only
    rw [Nat.add_assoc]

theorem length_header (base size : Nat) :
    (header base size).length = (sizeBytes size).length + 1 := by
  rw [header_eq, List.length_cons]

/-- A byte string stands for itself or behind its header. -/
theorem encodeBytes_cases (x : Bytes) :
    (∃ b : UInt8, b.toNat < 0x80 ∧ x = [b] ∧ encodeBytes x = [b]) ∨
      (∀ b : UInt8, x = [b] → ¬b.toNat < 0x80) ∧ encodeBytes x = header 0x80 x.length ++ x := by
  unfold encodeBytes
  split
  · next b =>
    split_ifs with hb
    · exact Or.inl ⟨b, hb, rfl, rfl⟩
    · refine Or.inr ⟨?_, rfl⟩
      rintro _ ⟨⟩
      exact hb
  · next hx => exact Or.inr ⟨fun b hb => absurd hb (hx b), rfl⟩

theorem length_le_length_encodeBytes (x : Bytes) : x.length ≤ (encodeBytes x).length := by
  rcases encodeBytes_cases x with ⟨b, -, rfl, hx⟩ | ⟨-, hx⟩
  · exact Nat.le_of_eq (congrArg List.length hx).symm
  · rw [hx, List.length_append]
    omega

theorem Item.length_encode_pos (i : Item) : 0 < i.encode.length := by
  cases i with
  | bytes x =>
    rw [Item.encode]
    rcases encodeBytes_cases x with ⟨b, -, rfl, hx⟩ | ⟨-, hx⟩
    · rw [hx]
      exact Nat.one_pos
    · rw [hx, List.length_append, length_header]
      omega
  | list items =>
    rw [Item.encode, List.length_append, length_header]
    omega

/-- The first byte of a header tells the size of a short payload. -/
theorem toNat_mark_of_short {base size : Nat} (hbase : base ≤ 0xc0) (h : size < 56) :
    (UInt8.ofNat (base + sizeMark size)).toNat = base + size := by
  rw [sizeMark, if_pos h]
  exact UInt8.toNat_ofNat_of_lt' (show base + size < 256 by omega)

/-- A long payload that fits memory has its size told by one to eight bytes. -/
theorem toNat_mark_of_long {base size : Nat} (hbase : base ≤ 0xc0) (h : ¬size < 56)
    (hsize : size < twoTo 64) :
    (UInt8.ofNat (base + sizeMark size)).toNat = base + 55 + (minBytes size).length ∧
      1 ≤ (minBytes size).length ∧ (minBytes size).length ≤ 8 := by
  have height : (minBytes size).length ≤ 8 := length_minBytes_le_iff.2 hsize
  refine ⟨?_, one_le_length_minBytes (by omega), height⟩
  rw [sizeMark, if_neg h, ← Nat.add_assoc]
  exact UInt8.toNat_ofNat_of_lt' (show base + 55 + (minBytes size).length < 256 by omega)

theorem takeShort?_append (x rest : Bytes) : takeShort? x.length (x ++ rest) = some (x, rest) := by
  rw [takeShort?, List.length_append, if_neg (by omega), List.take_left, List.drop_left]

theorem takeLong?_append {x : Bytes} (hlong : 56 ≤ x.length) (rest : Bytes) :
    takeLong? (minBytes x.length).length (minBytes x.length ++ (x ++ rest)) = some (x, rest) := by
  have hhead : (minBytes x.length).head? ≠ some 0 := by
    cases hbytes : minBytes x.length with
    | nil => simp
    | cons b bs => simpa using head_minBytes_ne_zero hbytes
  have hfits : ¬((minBytes x.length ++ (x ++ rest)).length < (minBytes x.length).length ∨
      (minBytes x.length).head? = some 0 ∨ x.length < 56 ∨ (x ++ rest).length < x.length) := by
    simp only [List.length_append, not_or]
    exact ⟨by omega, hhead, by omega, by omega⟩
  simp only [takeLong?, List.take_left, List.drop_left, beValue_minBytes]
  rw [if_neg hfits]

/-! ## Reading back -/

/-- A byte string is read back, whatever stands behind it. -/
theorem decodeItem?_encodeBytes (fuel : Nat) {x : Bytes} (hsize : x.length < twoTo 64)
    (rest : Bytes) : decodeItem? (fuel + 1) (encodeBytes x ++ rest) = some (.bytes x, rest) := by
  rcases encodeBytes_cases x with ⟨b, hb, rfl, hx⟩ | ⟨hself, hx⟩
  · rw [hx, List.singleton_append, decodeItem?]
    exact if_pos hb
  rw [hx, header_eq, List.append_assoc, List.cons_append]
  by_cases hshort : x.length < 56
  · have hmark := toNat_mark_of_short (show 0x80 ≤ 0xc0 by decide) hshort
    have htake : takeShort? (0x80 + x.length - 0x80) (x ++ rest) = some (x, rest) := by
      rw [Nat.add_sub_cancel_left, takeShort?_append]
    simp only [decodeItem?, hmark, sizeBytes, if_pos hshort, List.nil_append, htake]
    rw [if_neg (by omega), if_pos (by omega)]
    split
    · next b _ heq =>
      cases heq
      exact if_neg (hself b rfl)
    · next heq =>
      cases heq
      rfl
    · next heq => cases heq
  · obtain ⟨hmark, hone, height⟩ :=
      toNat_mark_of_long (show 0x80 ≤ 0xc0 by decide) hshort hsize
    simp only [decodeItem?, hmark, sizeBytes, if_neg hshort, Nat.add_sub_cancel_left,
      takeLong?_append (Nat.not_lt.1 hshort)]
    rw [if_neg (by omega), if_neg (by omega), if_pos (by omega)]
    rfl

/-- A list is read back if its payload is. -/
theorem decodeItem?_list {fuel : Nat} {items : List Item}
    (hsize : (encodeItems items).length < twoTo 64)
    (hitems : decodeItems? fuel (encodeItems items) = some items) (rest : Bytes) :
    decodeItem? (fuel + 1) ((Item.list items).encode ++ rest) = some (.list items, rest) := by
  rw [Item.encode, header_eq, List.append_assoc, List.cons_append]
  by_cases hshort : (encodeItems items).length < 56
  · have hmark := toNat_mark_of_short (Nat.le_refl 0xc0) hshort
    simp only [decodeItem?, hmark, sizeBytes, if_pos hshort, List.nil_append,
      Nat.add_sub_cancel_left, takeShort?_append]
    rw [if_neg (by omega), if_neg (by omega), if_neg (by omega), if_pos (by omega)]
    simp only [hitems, Option.map_some]
  · obtain ⟨hmark, hone, height⟩ := toNat_mark_of_long (Nat.le_refl 0xc0) hshort hsize
    simp only [decodeItem?, hmark, sizeBytes, if_neg hshort, Nat.add_sub_cancel_left,
      takeLong?_append (Nat.not_lt.1 hshort)]
    rw [if_neg (by omega), if_neg (by omega), if_neg (by omega), if_neg (by omega)]
    simp only [hitems, Option.map_some]

mutual
theorem decodeItem?_encode : ∀ (i : Item) (fuel : Nat) (rest : Bytes),
    i.encode.length < twoTo 64 → 2 * i.encode.length ≤ fuel →
      decodeItem? fuel (i.encode ++ rest) = some (i, rest)
  | i, 0, _, _, hfuel => by
    have := i.length_encode_pos
    omega
  | .bytes x, fuel + 1, rest, hsize, _ => by
    exact decodeItem?_encodeBytes fuel
      (Nat.lt_of_le_of_lt (length_le_length_encodeBytes x) hsize) rest
  | .list items, fuel + 1, rest, hsize, hfuel => by
    rw [Item.encode, List.length_append, length_header] at hsize hfuel
    exact decodeItem?_list (by omega)
      (decodeItems?_encodeItems items fuel (by omega) (by omega)) rest
theorem decodeItems?_encodeItems : ∀ (items : List Item) (fuel : Nat),
    (encodeItems items).length < twoTo 64 → 2 * (encodeItems items).length + 1 ≤ fuel →
      decodeItems? fuel (encodeItems items) = some items
  | _, 0, _, hfuel => by omega
  | [], _ + 1, _, _ => rfl
  | i :: items, fuel + 1, hsize, hfuel => by
    have hpos := i.length_encode_pos
    rw [encodeItems, List.length_append] at hsize hfuel
    have hitem := decodeItem?_encode i fuel (encodeItems items) (by omega) (by omega)
    have hitems := decodeItems?_encodeItems items fuel (by omega) (by omega)
    rw [encodeItems, decodeItems?, hitem]
    · simp only [hitems, Option.map_some]
    · intro hnil
      rw [List.append_eq_nil_iff] at hnil
      rw [hnil.1] at hpos
      exact Nat.lt_irrefl _ hpos
end

/-- **Every item is read back from its bytes**, whatever stands behind them. -/
theorem Item.decode?_encode {i : Item} (hsize : i.encode.length < twoTo 64) (rest : Bytes) :
    Item.decode? (i.encode ++ rest) = some (i, rest) := by
  refine decodeItem?_encode i _ rest hsize ?_
  rw [List.length_append]
  omega

/-! ## Same bytes, same payload

Sizes above `twoTo 64` have no mark of their own in one byte. Payloads of about the same size have
different marks all the same, and payloads of very different sizes have different bytes in all. -/

theorem length_sizeBytes_mono {m n : Nat} (h : m ≤ n) :
    (sizeBytes m).length ≤ (sizeBytes n).length := by
  unfold sizeBytes
  split_ifs
  · exact Nat.le_refl _
  · exact Nat.zero_le _
  · omega
  · exact length_minBytes_mono h

/-- Lists with the same bytes have the same payload. -/
theorem encode_list_inj {items items' : List Item}
    (h : (Item.list items).encode = (Item.list items').encode) :
    encodeItems items = encodeItems items' := by
  rw [Item.encode, Item.encode] at h
  have htotal := congrArg List.length h
  rw [List.length_append, List.length_append, length_header, length_header] at htotal
  have hsize : (encodeItems items).length = (encodeItems items').length := by
    rcases Nat.lt_trichotomy (encodeItems items).length (encodeItems items').length
      with hlt | heq | hgt
    · have := length_sizeBytes_mono (Nat.le_of_lt hlt)
      omega
    · exact heq
    · have := length_sizeBytes_mono (Nat.le_of_lt hgt)
      omega
  rw [hsize] at h
  exact List.append_cancel_left h

/-- Sizes that are near each other have marks that are near each other. -/
theorem sizeMark_le {m n : Nat} (h : m ≤ n + 128) : sizeMark m ≤ sizeMark n + 56 := by
  unfold sizeMark
  split_ifs with hm hn hn
  · omega
  · omega
  · have : (minBytes m).length ≤ 1 := length_minBytes_le_iff.2 (show m < 256 by omega)
    omega
  · have hone := one_le_length_minBytes (show n ≠ 0 by omega)
    have hlt : n < twoTo (8 * (minBytes n).length) := length_minBytes_le_iff.1 (Nat.le_refl _)
    have hpow : twoTo 8 ≤ twoTo (8 * (minBytes n).length) :=
      Nat.pow_le_pow_right (by decide) (Nat.mul_le_mul_left 8 hone)
    have hmore : (minBytes m).length ≤ (minBytes n).length + 1 := by
      have height : twoTo 8 = 256 := rfl
      rw [height] at hpow
      rw [length_minBytes_le_iff, Nat.mul_succ, twoTo_add, height]
      omega
    omega

/-- Headers of sizes that are near each other are told apart. -/
theorem header_append_inj {base m n : Nat} {s t : Bytes} (hmn : m ≤ n + 128) (hnm : n ≤ m + 128)
    (h : header base m ++ s = header base n ++ t) : m = n ∧ s = t := by
  rw [header_eq, header_eq, List.cons_append, List.cons_append, List.cons.injEq] at h
  obtain ⟨hfirst, hrest⟩ := h
  have hmark : sizeMark m = sizeMark n := by
    have hmod := congrArg UInt8.toNat hfirst
    rw [UInt8.toNat_ofNat', UInt8.toNat_ofNat'] at hmod
    have hle := sizeMark_le hmn
    have hge := sizeMark_le hnm
    omega
  unfold sizeMark at hmark
  unfold sizeBytes at hrest
  split_ifs at hmark hrest with hm hn hn
  · exact ⟨hmark, hrest⟩
  · have := one_le_length_minBytes (show n ≠ 0 by omega)
    omega
  · have := one_le_length_minBytes (show m ≠ 0 by omega)
    omega
  · obtain ⟨hbytes, hst⟩ := List.append_inj hrest (by omega)
    exact ⟨minBytes_inj hbytes, hst⟩

/-- A small byte that stands for itself begins no header of a size near one. -/
theorem cons_ne_header {b : UInt8} (hb : b.toNat < 0x80) {n : Nat} (hn : n ≤ 1 + 128)
    {s t : Bytes} : [b] ++ s ≠ header 0x80 n ++ t := by
  rw [header_eq, List.cons_append, List.cons_append]
  intro h
  have hmod := congrArg UInt8.toNat (List.cons.inj h).1
  rw [UInt8.toNat_ofNat'] at hmod
  have hle : sizeMark n ≤ 1 + 56 := sizeMark_le hn
  omega

/-- Byte strings of sizes that are near each other are told apart, whatever stands behind them. -/
theorem encodeBytes_append_inj {x y s t : Bytes} (hxy : x.length ≤ y.length + 128)
    (hyx : y.length ≤ x.length + 128) (h : encodeBytes x ++ s = encodeBytes y ++ t) :
    x = y ∧ s = t := by
  rcases encodeBytes_cases x with ⟨b, hb, rfl, hx⟩ | ⟨-, hx⟩ <;>
    rcases encodeBytes_cases y with ⟨c, hc, rfl, hy⟩ | ⟨-, hy⟩ <;> rw [hx, hy] at h
  · exact List.append_inj h rfl
  · rw [List.append_assoc] at h
    exact absurd h (cons_ne_header hb (by simpa [Nat.add_comm] using hyx))
  · rw [List.append_assoc] at h
    exact absurd h.symm (cons_ne_header hc (by simpa [Nat.add_comm] using hxy))
  · rw [List.append_assoc, List.append_assoc] at h
    obtain ⟨hsize, hrest⟩ := header_append_inj hxy hyx h
    exact List.append_inj hrest hsize

/-- The longer byte string has the longer bytes, nearly as much longer as it is itself. -/
theorem length_encodeBytes_add_le {x y : Bytes} (h : x.length ≤ y.length) :
    (encodeBytes x).length + (y.length - x.length) ≤ (encodeBytes y).length + 1 := by
  have hy := length_le_length_encodeBytes y
  rcases encodeBytes_cases x with ⟨b, -, rfl, hx⟩ | ⟨-, hx⟩
  · rw [hx]
    have hone : [b].length = 1 := rfl
    omega
  · have hmono := length_sizeBytes_mono h
    rw [hx, List.length_append, length_header]
    rcases encodeBytes_cases y with ⟨c, -, rfl, hy'⟩ | ⟨-, hy'⟩
    · have hnone : (sizeBytes [c].length).length = 0 := rfl
      have hone : [c].length = 1 := rfl
      rw [hy']
      omega
    · rw [hy', List.length_append, length_header]
      omega

/-- Byte strings of any size are told apart by what begins with them and has little more. -/
theorem encodeBytes_append_inj_of_short {x y s t : Bytes} (hs : s.length < 128)
    (ht : t.length < 128) (h : encodeBytes x ++ s = encodeBytes y ++ t) : x = y ∧ s = t := by
  have htotal := congrArg List.length h
  rw [List.length_append, List.length_append] at htotal
  refine encodeBytes_append_inj ?_ ?_ h
  · rcases Nat.le_total x.length y.length with hle | hle
    · omega
    · have := length_encodeBytes_add_le hle
      omega
  · rcases Nat.le_total y.length x.length with hle | hle
    · omega
    · have := length_encodeBytes_add_le hle
      omega

theorem length_encodeBytes_le (x : Bytes) :
    (encodeBytes x).length ≤ (sizeBytes x.length).length + 1 + x.length := by
  rcases encodeBytes_cases x with ⟨b, -, rfl, hx⟩ | ⟨-, hx⟩
  · rw [hx]
    exact Nat.le_add_left _ _
  · have hlength := congrArg List.length hx
    rw [List.length_append, length_header] at hlength
    exact Nat.le_of_eq hlength

theorem length_sizeBytes_of_short {size : Nat} (h : size < 56) : (sizeBytes size).length = 0 := by
  rw [sizeBytes, if_pos h, List.length_nil]

/-- A size that fits memory is told by at most eight bytes. -/
theorem length_sizeBytes_le {size : Nat} (h : size < twoTo 64) : (sizeBytes size).length ≤ 8 := by
  unfold sizeBytes
  split_ifs
  · exact Nat.zero_le _
  · exact length_minBytes_le_iff.2 h

theorem length_encodeItems_le {xs : List Bytes} {n : Nat} (hn : n < 56)
    (h : ∀ x ∈ xs, x.length ≤ n) :
    (encodeItems (xs.map .bytes)).length ≤ xs.length * (n + 1) := by
  induction xs with
  | nil => exact Nat.zero_le _
  | cons x xs ih =>
    have hx := h x List.mem_cons_self
    have hone := length_encodeBytes_le x
    have hnone := length_sizeBytes_of_short (Nat.lt_of_le_of_lt hx hn)
    have hrest := ih fun y hy => h y (List.mem_cons_of_mem x hy)
    rw [List.map_cons, encodeItems, Item.encode, List.length_append, List.length_cons,
      Nat.succ_mul]
    omega

theorem encodeItems_append (items items' : List Item) :
    encodeItems (items ++ items') = encodeItems items ++ encodeItems items' := by
  induction items with
  | nil => rfl
  | cons i items ih => rw [List.cons_append, encodeItems, ih, encodeItems, List.append_assoc]

/-- As many short byte strings one after another are told apart, whatever stands behind them. -/
theorem encodeItems_append_inj (xs ys : List Bytes) {s t : Bytes} (hlength : xs.length = ys.length)
    (hxs : ∀ x ∈ xs, x.length ≤ 128) (hys : ∀ y ∈ ys, y.length ≤ 128)
    (h : encodeItems (xs.map .bytes) ++ s = encodeItems (ys.map .bytes) ++ t) :
    xs = ys ∧ s = t := by
  induction xs generalizing ys with
  | nil =>
    obtain rfl := List.length_eq_zero_iff.1 hlength.symm
    exact ⟨rfl, h⟩
  | cons x xs ih =>
    rcases ys with _ | ⟨y, ys⟩
    · cases hlength
    · rw [List.map_cons, List.map_cons, encodeItems, encodeItems, Item.encode, Item.encode,
        List.append_assoc, List.append_assoc] at h
      have hx := hxs x List.mem_cons_self
      have hy := hys y List.mem_cons_self
      obtain ⟨rfl, hrest⟩ := encodeBytes_append_inj (by omega) (by omega) h
      obtain ⟨rfl, hst⟩ := ih ys (Nat.succ.inj hlength)
        (fun z hz => hxs z (List.mem_cons_of_mem x hz))
        (fun z hz => hys z (List.mem_cons_of_mem x hz)) hrest
      exact ⟨rfl, hst⟩

end Rlp

end NodeFleet

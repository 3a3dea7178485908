/-
  Where contract values stand in calldata.

  * `Part.StandsAt`, `StandAt`: a part, and parts one after another, stand at a place of a byte
    string: bytes in place, or a pointer to them.
  * `standAt_assemble`: assembled parts stand where their bytes begin.
  * `Frame.word_eq`, `Frame.follow_eq`, `Frame.sized_eq`: words, pointers and byte strings are
    read where they stand.
-/
import NodeFleet.Abi.Decode
import NodeFleet.Abi.Encode
import Mathlib.Data.List.Forall2
import Mathlib.Tactic.Ring

namespace NodeFleet

/-! ## Byte strings that begin others -/

theorem append_prefix_drop_iff {x y bs : Bytes} {i : Nat} :
    x ++ y <+: bs.drop i ↔ x <+: bs.drop i ∧ y <+: bs.drop (i + x.length) := by
  rw [← List.drop_drop]
  constructor
  · rintro ⟨z, hz⟩
    refine ⟨⟨y ++ z, by rw [← hz, List.append_assoc]⟩, ⟨z, ?_⟩⟩
    rw [← hz, List.append_assoc, List.drop_left]
  · rintro ⟨⟨z, hz⟩, hy⟩
    rw [← hz, List.drop_left] at hy
    obtain ⟨w, rfl⟩ := hy
    exact ⟨w, by rw [← hz, List.append_assoc]⟩

theorem add_length_le_of_begins {x bs : Bytes} {i : Nat} (h : x <+: bs.drop i)
    (hi : i ≤ bs.length) : i + x.length ≤ bs.length := by
  have hle := h.length_le
  rw [List.length_drop] at hle
  omega

theorem beValue_append (x y : Bytes) :
    beValue (x ++ y) = beValue x * twoTo (8 * y.length) + beValue y := by
  induction x with
  | nil => simp [beValue]
  | cons b x ih =>
    rw [List.cons_append, beValue, ih, beValue, List.length_append, Nat.mul_add, twoTo_add]
    ring

theorem beValue_replicate_zero (n : Nat) : beValue (List.replicate n 0) = 0 := by
  induction n with
  | zero => rfl
  | succ n ih =>
    rw [List.replicate_succ, beValue, ih]
    simp

namespace Abi

/-! ## Parts -/

/-- A part stands at a place of a byte string: its bytes, or a pointer to them. -/
def Part.StandsAt (bs : Bytes) (i : Nat) : Part → Prop
  | .inPlace x => x <+: bs.drop i
  | .behind x => ∃ offset ≤ bs.length, beBytes 32 offset <+: bs.drop i ∧ x <+: bs.drop offset

/-- Parts stand one after another, the first of them at a place. -/
def StandAt (bs : Bytes) : Nat → List Part → Prop
  | _, [] => True
  | i, p :: ps => p.StandsAt bs i ∧ StandAt bs (i + p.headSize) ps

/-- A list and what stands behind it are parts that stand where the list does. -/
theorem standAt_of_heads {bs : Bytes} {ps : List Part} {offset i : Nat}
    (hheads : heads offset ps <+: bs.drop i) (htails : tails ps <+: bs.drop offset)
    (hoffset : offset ≤ bs.length) : StandAt bs i ps := by
  induction ps generalizing offset i with
  | nil => trivial
  | cons p ps ih =>
    cases p with
    | inPlace x =>
      obtain ⟨hx, hrest⟩ := append_prefix_drop_iff.1 hheads
      exact ⟨hx, ih hrest htails hoffset⟩
    | behind x =>
      obtain ⟨hpointer, hrest⟩ := append_prefix_drop_iff.1 hheads
      obtain ⟨hx, hbehind⟩ := append_prefix_drop_iff.1 htails
      rw [length_beBytes] at hrest
      exact ⟨⟨offset, hoffset, hpointer, hx⟩,
        ih hrest hbehind (add_length_le_of_begins hx hoffset)⟩

/-- **Assembled parts stand where their bytes begin.** -/
theorem standAt_assemble {bs : Bytes} {ps : List Part} (h : assemble ps <+: bs) :
    StandAt bs 0 ps := by
  have hparts : heads (headsSize ps) ps ++ tails ps <+: bs.drop 0 := h
  obtain ⟨hheads, htails⟩ := append_prefix_drop_iff.1 hparts
  rw [length_heads, Nat.zero_add] at htails
  refine standAt_of_heads hheads htails ?_
  have hle := hheads.length_le
  rwa [length_heads] at hle

theorem length_assemble (ps : List Part) :
    (assemble ps).length = headsSize ps + (tails ps).length := by
  rw [assemble, List.length_append, length_heads]

namespace Frame

variable {f : Frame} {i : Nat}

/-! ## Words, pointers and byte strings -/

/-- A word is read where its bytes stand. -/
theorem word_eq {x : Bytes} (hx : x.length = 32) (h : x <+: f.bytes.drop i) :
    f.word i = .ok (BitVec.ofNat 256 (beValue x)) := by
  have hle := h.length_le
  rw [List.length_drop, hx] at hle
  have htake : (f.bytes.drop i).take 32 = x := by
    rw [← hx]
    exact (List.prefix_iff_eq_take.1 h).symm
  rw [word, if_pos (by omega), wordOfBytes, htake]

theorem word_beBytes {n : Nat} (h : beBytes 32 n <+: f.bytes.drop i) :
    f.word i = .ok (BitVec.ofNat 256 n) := by
  rw [word_eq (length_beBytes 32 n) h, beValue_beBytes]
  congr 1
  apply BitVec.eq_of_toNat_eq
  simp [twoTo]

theorem offset_eq {n : Nat} (h : beBytes 32 n <+: f.bytes.drop i) (hn : n < twoTo 64) :
    f.offset i = .ok n := by
  have hword : (BitVec.ofNat 256 n).toNat = n := by
    rw [BitVec.toNat_ofNat]
    exact Nat.mod_eq_of_lt (Nat.lt_of_lt_of_le hn (by decide))
  simp only [offset, word_beBytes h, hword]
  exact if_pos hn

theorem inner_eq (hdepth : f.depth < maxDepth) (hi : i ≤ f.bytes.length) :
    f.inner i = .ok ⟨f.bytes.drop i, f.depth + 1⟩ := by
  rw [inner, if_neg (Nat.not_le.2 hdepth), if_pos hi]

/-- A pointer leads to the bytes behind it. -/
theorem follow_eq {n : Nat} (hdepth : f.depth < maxDepth) (hsize : f.bytes.length < twoTo 64)
    (hn : n ≤ f.bytes.length) (h : beBytes 32 n <+: f.bytes.drop i) :
    f.follow i = .ok ⟨f.bytes.drop n, f.depth + 1⟩ := by
  rw [follow, offset_eq h (Nat.lt_of_le_of_lt hn hsize)]
  exact inner_eq hdepth hn

/-- A byte string is read from where its length stands. -/
theorem sized_eq {x : Bytes} (hsize : f.bytes.length < twoTo 64) (h : putBytes x <+: f.bytes) :
    f.sized = .ok x := by
  have hparts : beBytes 32 x.length ++ padRight x <+: f.bytes.drop 0 := h
  obtain ⟨hlength, hpadded⟩ := append_prefix_drop_iff.1 hparts
  obtain ⟨hx, -⟩ := append_prefix_drop_iff.1 hpadded
  rw [length_beBytes, Nat.zero_add] at hx
  have hle := hx.length_le
  rw [List.length_drop] at hle
  have hsmall := hlength.length_le
  rw [length_beBytes, List.length_drop] at hsmall
  have hoffset : f.offset 0 = .ok x.length := offset_eq hlength (by omega)
  have htake : (f.bytes.drop 32).take x.length = x := (List.prefix_iff_eq_take.1 hx).symm
  rw [sized, hoffset]
  change (if 32 + x.length ≤ f.bytes.length then _ else _) = _
  rw [if_pos (by omega), htake]

end Frame

end Abi

end NodeFleet

/-
  Contract values are read back from calldata.

  * `Ty.induction`: what holds of a type because it holds of the types in it.
  * `Ty.frames`, `Ty.filled`: how many frames the reading of a type opens one in another, and
    types no part of which is empty by itself.
  * `Ty.admits_tuple_iff`: the values of a tuple type are tuples of values.
  * `Ty.Fits`: what values of a filled type look like in a list (`fits`).
  * `Ty.Reads`: a value is read wherever it stands. Words, byte strings and lists of values are
    read so one after another (`reads_word`, `decodeEach_eq`, `reads_array`, `decodeBlock_eq`), and
    with them every value (`reads_of_admits`).
  * `decode_of_encode`: encoded values are read back.
-/
import NodeFleet.Proofs.Layout
import Mathlib.Data.List.Forall2

namespace NodeFleet.Abi

/-! ## Types -/

/-- A property of types that holds of a type if it holds of the types in it. -/
theorem Ty.induction {P : Ty → Prop} (bool : P .bool) (uint : ∀ n, P (.uint n))
    (int : ∀ n, P (.int n)) (address : P .address) (fixedBytes : ∀ n, P (.fixedBytes n))
    (function : P .function) (bytes : P .bytes) (string : P .string)
    (array : ∀ t, P t → P (.array t)) (fixedArray : ∀ t n, P t → P (.fixedArray t n))
    (tuple : ∀ ts, (∀ t ∈ ts, P t) → P (.tuple ts)) (t : Ty) : P t :=
  @Ty.rec P (fun ts => ∀ t ∈ ts, P t) bool uint int address fixedBytes function bytes string
    array fixedArray tuple (by simp)
    (fun _ _ ht hts => List.forall_mem_cons.2 ⟨ht, hts⟩) t

mutual
/-- How many frames the reading of a value opens one in another at most. -/
def Ty.frames : Ty → Nat
  | .bytes | .string => 1
  | .array t => t.frames + 2
  | .fixedArray t _ => t.frames + 1
  | .tuple ts => framesOf ts + 1
  | _ => 0
def framesOf : List Ty → Nat
  | [] => 0
  | t :: ts => max t.frames (framesOf ts)
end

mutual
/-- A type with no array of size zero and no tuple of nothing in it. -/
def Ty.filled : Ty → Bool
  | .array t => t.filled
  | .fixedArray t n => n != 0 && t.filled
  | .tuple ts => !ts.isEmpty && allFilled ts
  | _ => true
def allFilled : List Ty → Bool
  | [] => true
  | t :: ts => t.filled && allFilled ts
end

theorem framesOf_replicate (t : Ty) (n : Nat) : framesOf (List.replicate n t) ≤ t.frames := by
  induction n with
  | zero => exact Nat.zero_le _
  | succ n ih =>
    rw [List.replicate_succ, framesOf]
    exact Nat.max_le.2 ⟨Nat.le_refl _, ih⟩

theorem allFilled_iff {ts : List Ty} : allFilled ts = true ↔ ∀ t ∈ ts, t.filled = true := by
  induction ts with
  | nil => simp [allFilled]
  | cons t ts ih => simp [allFilled, ih]

/-! ## The values of a type -/

theorem admitsEach_iff {ts : List Ty} {vs : List Value} :
    admitsEach ts vs = true ↔ List.Forall₂ (fun t v => t.admits v = true) ts vs := by
  induction ts generalizing vs with
  | nil => cases vs <;> simp [admitsEach, List.forall₂_nil_left_iff]
  | cons t ts ih => cases vs <;> simp [admitsEach, ih, List.forall₂_nil_right_iff]

theorem Ty.admits_tuple_iff {ts : List Ty} {v : Value} :
    (Ty.tuple ts).admits v = true ↔
      ∃ vs, v = .tuple vs ∧ List.Forall₂ (fun t v => t.admits v = true) ts vs := by
  cases v <;> simp [Ty.admits, admitsEach_iff]

/-- What a value adds to the list it stands in. -/
def Value.part (v : Value) : Part := if v.isDynamic then .behind v.put else .inPlace v.put

theorem forall₂_replicate_of_forall {α β : Type} {R : α → β → Prop} {a : α} {bs : List β}
    (h : ∀ b ∈ bs, R a b) : List.Forall₂ R (List.replicate bs.length a) bs := by
  induction bs with
  | nil => exact .nil
  | cons b bs ih => exact .cons (h b (.head _)) (ih fun c hc => h c (.tail _ hc))

theorem forall₂_of_forall_mem {α β : Type} {R S : α → β → Prop} {as : List α} {bs : List β}
    (h : ∀ a ∈ as, ∀ b, R a b → S a b) (hR : List.Forall₂ R as bs) : List.Forall₂ S as bs :=
  ((List.forall₂_and_left as bs).2 ⟨h, hR⟩).imp fun _ b hab => hab.1 b hab.2

/-- A value of a type stands behind its list if those of the type do, and takes a word or more. -/
structure Ty.Fits (t : Ty) (v : Value) : Prop where
  isDynamic : v.isDynamic = t.isDynamic
  le_headSize : 32 ≤ v.part.headSize

theorem anyDynamic_of_fits {ts : List Ty} {vs : List Value} (h : List.Forall₂ Ty.Fits ts vs) :
    anyDynamic vs = anyDynamicTy ts := by
  induction h with
  | nil => rfl
  | cons hv _ ih => rw [anyDynamic, anyDynamicTy, hv.isDynamic, ih]

theorem mul_length_le_headsSize {ts : List Ty} {vs : List Value}
    (h : List.Forall₂ Ty.Fits ts vs) : 32 * vs.length ≤ headsSize (parts vs) := by
  induction h with
  | nil => exact Nat.zero_le _
  | @cons t v ts vs hv _ ih =>
    have hheads : headsSize (parts (v :: vs)) = v.part.headSize + headsSize (parts vs) := rfl
    have hwide := hv.le_headSize
    rw [hheads, List.length_cons]
    omega

/-- A value that is a block of others: a tuple, or an array of fixed size. -/
theorem Ty.Fits.of_block {t : Ty} {v : Value} {ts : List Ty} {vs : List Value}
    (hvs : List.Forall₂ Ty.Fits ts vs) (hne : ts ≠ []) (hput : v.put = assemble (parts vs))
    (hv : v.isDynamic = anyDynamic vs) (ht : t.isDynamic = anyDynamicTy ts) : t.Fits v := by
  refine ⟨by rw [hv, ht, anyDynamic_of_fits hvs], ?_⟩
  have hlength : 1 ≤ vs.length := by
    rw [← hvs.length_eq]
    exact List.length_pos_iff.2 hne
  have hheads := mul_length_le_headsSize hvs
  unfold Value.part
  split
  · exact Nat.le_refl 32
  · rw [Part.headSize, hput, length_assemble]
    omega

theorem Ty.fits {t : Ty} {v : Value} (ht : t.filled = true) (hv : t.admits v = true) : t.Fits v := by
  induction t using Ty.induction generalizing v with
  | bool | uint | int | address | fixedBytes | function | bytes | string =>
    cases v <;> simp only [Ty.admits, Bool.false_eq_true] at hv
    exact ⟨rfl, by simp [Value.part, Value.isDynamic, Part.headSize, Value.put, wordBytes]⟩
  | array t ih =>
    obtain ⟨vs, rfl, -⟩ := Ty.admits_array_iff.1 hv
    exact ⟨rfl, Nat.le_refl 32⟩
  | fixedArray t n ih =>
    obtain ⟨vs, rfl, rfl, hvs⟩ := Ty.admits_fixedArray_iff.1 hv
    simp only [Ty.filled, Bool.and_eq_true, bne_iff_ne] at ht
    refine .of_block (forall₂_replicate_of_forall fun w hw => ih ht.2 (hvs w hw)) ?_ rfl rfl ?_
    · simpa using ht.1
    · rw [anyDynamicTy_replicate]
      rfl
  | tuple ts ih =>
    obtain ⟨vs, rfl, hvs⟩ := Ty.admits_tuple_iff.1 hv
    simp only [Ty.filled, Bool.and_eq_true, allFilled_iff] at ht
    have hfits : ∀ t ∈ ts, ∀ v, t.admits v = true → t.Fits v :=
      fun t hmem v => ih t hmem (ht.2 t hmem)
    refine .of_block (forall₂_of_forall_mem hfits hvs) ?_ rfl rfl rfl
    simpa using ht.1

/-! ## Reading where values stand -/

/-- A value is read wherever it stands in a byte string that can be counted in 64 bits, if there
    is room for the frames. -/
def Ty.Reads (t : Ty) (v : Value) : Prop :=
  ∀ (f : Frame) (i : Nat), f.depth + t.frames ≤ maxDepth → f.bytes.length < twoTo 64 →
    v.part.StandsAt f.bytes i → t.decode f i = .ok (v, i + v.part.headSize)

/-- Values are read one after another. -/
theorem decodeEach_eq {ts : List Ty} {vs : List Value} {f : Frame} {i : Nat}
    (hvs : List.Forall₂ Ty.Reads ts vs) (hdepth : f.depth + framesOf ts ≤ maxDepth)
    (hsize : f.bytes.length < twoTo 64) (hat : StandAt f.bytes i (parts vs)) :
    decodeEach ts f i = .ok (vs, i + headsSize (parts vs)) := by
  induction hvs generalizing i with
  | nil => rfl
  | @cons t v ts vs hv _ ih =>
    rw [framesOf] at hdepth
    have ht := Nat.le_max_left t.frames (framesOf ts)
    have hts := Nat.le_max_right t.frames (framesOf ts)
    obtain ⟨hfirst, hrest⟩ : v.part.StandsAt f.bytes i ∧
      StandAt f.bytes (i + v.part.headSize) (parts vs) := hat
    have hread : t.decode f i = .ok (v, i + v.part.headSize) := hv f i (by omega) hsize hfirst
    have hreads := ih (by omega) hrest
    rw [Nat.add_assoc] at hreads
    exact decodeEach_cons hread hreads

/-! ### Words -/

theorem word_wordBytes (w : Word) : BitVec.ofNat 256 (beValue (wordBytes w)) = w := by
  rw [wordBytes, ofNat_beValue_beBytes (show 8 * 32 = 256 from rfl)]

/-- The word of a function is its bytes with zeros behind them. -/
theorem word_functionBytes (g : BitVec 192) :
    BitVec.ofNat 256 (beValue (beBytes 24 g.toNat ++ List.replicate 8 0)) =
      g.setWidth 256 <<< 64 := by
  have hg : g.toNat % twoTo (8 * 24) = g.toNat := Nat.mod_eq_of_lt g.isLt
  rw [beValue_append, beValue_beBytes, beValue_replicate_zero, hg, List.length_replicate]
  apply BitVec.eq_of_toNat_eq
  have hlt := g.isLt
  simp only [BitVec.toNat_ofNat, BitVec.toNat_shiftLeft, BitVec.toNat_setWidth,
    Nat.shiftLeft_eq]
  change (g.toNat * 2 ^ 64 + 0) % 2 ^ 256 = g.toNat % 2 ^ 256 * 2 ^ 64 % 2 ^ 256
  omega

section Words

variable {t : Ty} {v : Value} {w : Word}

/-- A value of one word is read if its type makes it from the word. -/
theorem reads_word (hput : v.put.length = 32) (hv : v.isDynamic = false)
    (hw : BitVec.ofNat 256 (beValue v.put) = w)
    (hread : ∀ f i, Frame.word f i = .ok w → t.decode f i = .ok (v, i + 32)) : t.Reads v := by
  intro f i _ _ hat
  have hpart : v.part = .inPlace v.put := by rw [Value.part, hv]; rfl
  rw [hpart] at hat ⊢
  rw [hread f i (hw ▸ Frame.word_eq hput hat), Part.headSize, hput]

end Words

theorem reads_bool (b : Bool) : Ty.bool.Reads (.bool b) := by
  refine reads_word (w := BitVec.ofNat 256 b.toNat) (length_beBytes 32 _) rfl ?_ fun f i h => ?_
  · rw [Value.put, beValue_beBytes]
    cases b <;> rfl
  · rw [Ty.decode, h]
    cases b <;> rfl

theorem reads_uint (w : Word) (n : Nat) : (Ty.uint n).Reads (.uint w n) := by
  refine reads_word (length_beBytes 32 _) rfl (word_wordBytes w) fun f i h => ?_
  rw [Ty.decode, h]
  rfl

theorem reads_int (w : Word) (n : Nat) : (Ty.int n).Reads (.int w n) := by
  refine reads_word (length_beBytes 32 _) rfl (word_wordBytes w) fun f i h => ?_
  rw [Ty.decode, h]
  rfl

theorem reads_fixedBytes (w : Word) (n : Nat) : (Ty.fixedBytes n).Reads (.fixedBytes w n) := by
  refine reads_word (length_beBytes 32 _) rfl (word_wordBytes w) fun f i h => ?_
  rw [Ty.decode, h]
  rfl

theorem reads_address (a : Address) : Ty.address.Reads (.address a) := by
  refine reads_word (length_beBytes 32 _) rfl (word_wordBytes a.toWord) fun f i h => ?_
  have ha : a.toWord.setWidth 160 = a.value := by
    rw [Address.toWord, BitVec.setWidth_setWidth_of_le _ (by decide), BitVec.setWidth_eq]
  rw [Ty.decode, h]
  change Except.ok (Value.address ⟨a.toWord.setWidth 160⟩, i + 32) = _
  rw [ha]

theorem reads_function (g : BitVec 192) : Ty.function.Reads (.function g) := by
  have hlength : (Value.function g).put.length = 32 := by
    rw [Value.put, List.length_append, length_beBytes, List.length_replicate]
  refine reads_word hlength rfl (word_functionBytes g) fun f i h => ?_
  have hg : ((g.setWidth 256 <<< 64) >>> 64).setWidth 192 = g := by
    apply BitVec.eq_of_toNat_eq
    have hlt := g.isLt
    simp only [BitVec.toNat_setWidth, BitVec.toNat_ushiftRight, BitVec.toNat_shiftLeft,
      Nat.shiftLeft_eq, Nat.shiftRight_eq_div_pow]
    omega
  rw [Ty.decode, h]
  change Except.ok (Value.function (((g.setWidth 256 <<< 64) >>> 64).setWidth 192), i + 32) = _
  rw [hg]

/-! ### Values behind their list -/

/-- A pointer to bytes leads to a frame that begins with them. -/
theorem follow_of_behind {f : Frame} {i : Nat} {x : Bytes} (hdepth : f.depth < maxDepth)
    (hsize : f.bytes.length < twoTo 64) (hat : (Part.behind x).StandsAt f.bytes i) :
    ∃ g : Frame, f.follow i = .ok g ∧ g.depth = f.depth + 1 ∧ g.bytes.length < twoTo 64 ∧
      x <+: g.bytes := by
  obtain ⟨offset, hoffset, hpointer, hx⟩ := hat
  refine ⟨_, Frame.follow_eq hdepth hsize hoffset hpointer, rfl, ?_, hx⟩
  rw [List.length_drop]
  omega

theorem reads_bytes (bs : Bytes) : Ty.bytes.Reads (.bytes bs) := by
  intro f i hdepth hsize hat
  rw [Ty.frames] at hdepth
  obtain ⟨g, hg, -, hgsize, hbytes⟩ := follow_of_behind (by omega) hsize hat
  rw [Ty.decode, hg]
  change g.sized.bind (fun bs' => .ok (Value.bytes bs', i + 32)) = _
  rw [Frame.sized_eq hgsize hbytes]
  rfl

theorem reads_string (s : String) : Ty.string.Reads (.string s) := by
  intro f i hdepth hsize hat
  rw [Ty.frames] at hdepth
  obtain ⟨g, hg, -, hgsize, hbytes⟩ := follow_of_behind (by omega) hsize hat
  rw [Ty.decode, hg]
  change g.sized.bind (fun bs => .ok (Value.string (Utf8.decodeLossy bs), i + 32)) = _
  rw [Frame.sized_eq hgsize hbytes]
  change Except.ok (Value.string (Utf8.decodeLossy (Utf8.encode s)), i + 32) = _
  rw [Utf8.decodeLossy_encode]
  rfl

/-- An array is read from its size and its items, if there is room for so many. -/
theorem decode_array {t : Ty} {f g items : Frame} {i j : Nat} {vs : List Value}
    (hg : f.follow i = .ok g) (hn : g.offset 0 = .ok vs.length) (hinner : g.inner 32 = .ok items)
    (hroom : 32 * vs.length ≤ items.bytes.length)
    (hvs : decodeEach (List.replicate vs.length t) items 0 = .ok (vs, j)) :
    (Ty.array t).decode f i = .ok (.array vs, i + 32) := by
  rw [← repeatRead_eq] at hvs
  simp only [Ty.decode, hg, bind, Except.bind, hn, hinner]
  by_cases hempty : vs.length = 0
  · obtain rfl := List.length_eq_zero_iff.1 hempty
    rfl
  · rw [if_neg hempty, if_neg (by omega), hvs]
    rfl

theorem reads_array {t : Ty} {vs : List Value} (hreads : ∀ v ∈ vs, t.Reads v)
    (hfits : ∀ v ∈ vs, t.Fits v) : (Ty.array t).Reads (.array vs) := by
  intro f i hdepth hsize hat
  rw [Ty.frames] at hdepth
  obtain ⟨g, hg, hgdepth, hgsize, hput⟩ := follow_of_behind (by omega) hsize hat
  have hparts : beBytes 32 vs.length ++ assemble (parts vs) <+: g.bytes.drop 0 := hput
  obtain ⟨hcount, hitems⟩ := append_prefix_drop_iff.1 hparts
  rw [length_beBytes, Nat.zero_add] at hitems
  have hroom : 32 * vs.length ≤ (g.bytes.drop 32).length :=
    calc
      32 * vs.length ≤ headsSize (parts vs) :=
        mul_length_le_headsSize (forall₂_replicate_of_forall hfits)
      _ ≤ (assemble (parts vs)).length := by
        rw [length_assemble]
        exact Nat.le_add_right _ _
      _ ≤ (g.bytes.drop 32).length := hitems.length_le
  have hdrop : (g.bytes.drop 32).length = g.bytes.length - 32 := List.length_drop
  have hword := hcount.length_le
  rw [length_beBytes, List.length_drop, Nat.sub_zero] at hword
  -- The size is below 2 ^ 64 because every item takes a word of the bytes.
  have hn : g.offset 0 = .ok vs.length := Frame.offset_eq hcount (by omega)
  have hinner : g.inner 32 = .ok ⟨g.bytes.drop 32, g.depth + 1⟩ :=
    Frame.inner_eq (by omega) hword
  have hframes := framesOf_replicate t vs.length
  have hitemsDepth : g.depth + 1 + framesOf (List.replicate vs.length t) ≤ maxDepth := by omega
  have hitemsSize : (g.bytes.drop 32).length < twoTo 64 := by omega
  exact decode_array hg hn hinner hroom (decodeEach_eq (f := ⟨g.bytes.drop 32, g.depth + 1⟩)
    (forall₂_replicate_of_forall hreads) hitemsDepth hitemsSize (standAt_assemble hitems))

/-! ### Values that are blocks of others -/

theorem tails_eq_nil {vs : List Value} (h : anyDynamic vs = false) : tails (parts vs) = [] := by
  induction vs with
  | nil => rfl
  | cons v vs ih =>
    rw [anyDynamic, Bool.or_eq_false_iff] at h
    rw [parts, h.1]
    exact ih h.2

/-- How a block of values stands in its list. -/
def blockPart (vs : List Value) : Part :=
  if anyDynamic vs then .behind (assemble (parts vs)) else .inPlace (assemble (parts vs))

/-- A block of values is read if the values are. -/
theorem decodeBlock_eq {ts : List Ty} {vs : List Value} {f : Frame} {i : Nat}
    (hreads : List.Forall₂ Ty.Reads ts vs) (hfits : List.Forall₂ Ty.Fits ts vs) (hne : ts ≠ [])
    (hdepth : f.depth + (framesOf ts + 1) ≤ maxDepth) (hsize : f.bytes.length < twoTo 64)
    (hat : (blockPart vs).StandsAt f.bytes i) :
    decodeBlock ts f i = .ok (vs, i + (blockPart vs).headSize) := by
  have hdynamic := anyDynamic_of_fits hfits
  unfold blockPart at hat ⊢
  unfold decodeBlock
  rw [hdynamic] at hat ⊢
  by_cases h : anyDynamicTy ts = true
  · rw [if_pos h] at hat ⊢
    obtain ⟨g, hg, hgdepth, hgsize, hput⟩ := follow_of_behind (by omega) hsize hat
    have heach := decodeEach_eq hreads (by omega) hgsize (standAt_assemble hput)
    rw [if_pos h, hg]
    change (decodeEach ts g 0).bind (fun p => .ok (p.1, i + 32)) = _
    rw [heach]
    rfl
  · rw [if_neg h] at hat ⊢
    have hput : assemble (parts vs) <+: f.bytes.drop i := hat
    have hlength : (assemble (parts vs)).length = headsSize (parts vs) := by
      rw [length_assemble, tails_eq_nil (by rw [hdynamic]; exact Bool.eq_false_iff.2 h)]
      rfl
    have hdrop : (f.bytes.drop i).length = f.bytes.length - i := List.length_drop
    have hi : i ≤ f.bytes.length := by
      have hitems : 1 ≤ vs.length := by
        rw [← hfits.length_eq]
        exact List.length_pos_iff.2 hne
      have hheads := mul_length_le_headsSize hfits
      have hle := hput.length_le
      omega
    have hinner : f.inner i = .ok ⟨f.bytes.drop i, f.depth + 1⟩ := Frame.inner_eq (by omega) hi
    have hinnerDepth : f.depth + 1 + framesOf ts ≤ maxDepth := by omega
    have hinnerSize : (f.bytes.drop i).length < twoTo 64 := by omega
    have heach := decodeEach_eq (f := ⟨f.bytes.drop i, f.depth + 1⟩) hreads hinnerDepth hinnerSize
      (standAt_assemble hput)
    rw [if_neg h, hinner]
    change (decodeEach ts ⟨f.bytes.drop i, f.depth + 1⟩ 0).bind (fun p => .ok (p.1, i + p.2)) = _
    rw [heach, Part.headSize, hlength, Nat.zero_add]
    rfl

/-! ## Every value -/

/-- **Every value of a filled type is read wherever it stands.** -/
theorem reads_of_admits {t : Ty} {v : Value} (ht : t.filled = true) (hv : t.admits v = true) :
    t.Reads v := by
  induction t using Ty.induction generalizing v with
  | bool =>
    cases v <;> simp only [Ty.admits, Bool.false_eq_true] at hv
    exact reads_bool _
  | uint n =>
    cases v <;> simp only [Ty.admits, Bool.false_eq_true, beq_iff_eq] at hv
    subst hv
    exact reads_uint _ _
  | int n =>
    cases v <;> simp only [Ty.admits, Bool.false_eq_true, beq_iff_eq] at hv
    subst hv
    exact reads_int _ _
  | address =>
    cases v <;> simp only [Ty.admits, Bool.false_eq_true] at hv
    exact reads_address _
  | fixedBytes n =>
    cases v <;> simp only [Ty.admits, Bool.false_eq_true, beq_iff_eq] at hv
    subst hv
    exact reads_fixedBytes _ _
  | function =>
    cases v <;> simp only [Ty.admits, Bool.false_eq_true] at hv
    exact reads_function _
  | bytes =>
    cases v <;> simp only [Ty.admits, Bool.false_eq_true] at hv
    exact reads_bytes _
  | string =>
    cases v <;> simp only [Ty.admits, Bool.false_eq_true] at hv
    exact reads_string _
  | array t ih =>
    obtain ⟨vs, rfl, hvs⟩ := Ty.admits_array_iff.1 hv
    rw [Ty.filled] at ht
    exact reads_array (fun w hw => ih ht (hvs w hw)) fun w hw => Ty.fits ht (hvs w hw)
  | fixedArray t n ih =>
    obtain ⟨vs, rfl, rfl, hvs⟩ := Ty.admits_fixedArray_iff.1 hv
    simp only [Ty.filled, Bool.and_eq_true, bne_iff_ne] at ht
    intro f i hdepth hsize hat
    rw [Ty.frames] at hdepth
    have hframes := framesOf_replicate t vs.length
    rw [decode_fixedArray_eq,
      decodeBlock_eq (forall₂_replicate_of_forall fun w hw => ih ht.2 (hvs w hw))
        (forall₂_replicate_of_forall fun w hw => Ty.fits ht.2 (hvs w hw)) (by simpa using ht.1)
        (by omega) hsize hat]
    rfl
  | tuple ts ih =>
    obtain ⟨vs, rfl, hvs⟩ := Ty.admits_tuple_iff.1 hv
    simp only [Ty.filled, Bool.and_eq_true, allFilled_iff] at ht
    intro f i hdepth hsize hat
    rw [Ty.frames] at hdepth
    rw [decode_tuple_eq,
      decodeBlock_eq (forall₂_of_forall_mem (fun t hmem v => ih t hmem (ht.2 t hmem)) hvs)
        (forall₂_of_forall_mem (fun t hmem v => Ty.fits (ht.2 t hmem)) hvs) (by simpa using ht.1)
        hdepth hsize hat]
    rfl

theorem framesOf_le {ts : List Ty} {n : Nat} (h : ∀ t ∈ ts, t.frames ≤ n) : framesOf ts ≤ n := by
  induction ts with
  | nil => exact Nat.zero_le n
  | cons t ts ih =>
    rw [framesOf]
    exact Nat.max_le.2 ⟨h t (.head _), ih fun u hu => h u (.tail _ hu)⟩

theorem decodeFrom_eq (f : Frame) (ts : List Ty) (i : Nat) :
    decodeFrom f (ts.map .ok) i = Prod.fst <$> decodeEach ts f i := by
  induction ts generalizing i with
  | nil => rfl
  | cons t ts ih =>
    rw [List.map_cons, decodeFrom, decodeEach]
    rcases t.decode f i with _ | ⟨v, j⟩
    · rfl
    · simp only [ih]
      change _ = Prod.fst <$> (decodeEach ts f j).bind (fun p => .ok (v :: p.1, p.2))
      cases decodeEach ts f j <;> rfl

/-- **Encoded values are read back**, whatever stands behind them: values of filled types with
    room for their frames, in a byte string that can be counted in 64 bits. -/
theorem decode_of_encode {ts : List Ty} {vs : List Value} {bs : Bytes}
    (hts : ∀ t ∈ ts, t.filled = true ∧ t.frames ≤ maxDepth)
    (hvs : List.Forall₂ (fun t v => t.admits v = true) ts vs) (hsize : bs.length < twoTo 64)
    (hbs : encode vs <+: bs) : decode (ts.map .ok) bs = .ok vs := by
  have hreads : List.Forall₂ Ty.Reads ts vs :=
    forall₂_of_forall_mem (fun t hmem v => reads_of_admits (hts t hmem).1) hvs
  have hframes : 0 + framesOf ts ≤ maxDepth := by
    rw [Nat.zero_add]
    exact framesOf_le fun t hmem => (hts t hmem).2
  rw [decode, decodeFrom_eq,
    decodeEach_eq (f := ⟨bs, 0⟩) hreads hframes hsize (standAt_assemble hbs)]
  rfl

end NodeFleet.Abi

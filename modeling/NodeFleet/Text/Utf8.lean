/-
  Texts from bytes.

  * `Utf8.decode?`: the text of a well-formed byte string.
  * `Utf8.decodeLossy`: each longest ill-formed piece read as one replacement character.
  * `Utf8.encode`: the bytes of a text, from which it is read back (`decodeLossy_encode`).
    `decode?_eq_some_iff`: of all other bytes nothing is.
-/
import NodeFleet.Bytes

namespace NodeFleet.Utf8

def encode (s : String) : Bytes := s.toUTF8.toList

/-- The bytes that may follow a lead byte: how many in all, and the range of the first. -/
def tailOf? (b : Nat) : Option (Nat × Nat × Nat) :=
  if b < 0x80 then some (0, 0x80, 0xbf)
  else if 0xc2 ≤ b ∧ b ≤ 0xdf then some (1, 0x80, 0xbf)
  else if b = 0xe0 then some (2, 0xa0, 0xbf)
  else if b = 0xed then some (2, 0x80, 0x9f)
  else if 0xe1 ≤ b ∧ b ≤ 0xef then some (2, 0x80, 0xbf)
  else if b = 0xf0 then some (3, 0x90, 0xbf)
  else if 0xf1 ≤ b ∧ b ≤ 0xf3 then some (3, 0x80, 0xbf)
  else if b = 0xf4 then some (3, 0x80, 0x8f)
  else none

/-- Follow-up bytes of a character begun with the bits `v`: the code point if all are there,
    and how many belong to it. -/
private def follow : Nat → Nat → Nat → Nat → Nat → Bytes → Option Nat × Nat
  | 0, _, _, v, taken, _ => (some v, taken)
  | _ + 1, _, _, _, taken, [] => (none, taken)
  | n + 1, lo, hi, v, taken, b :: bs =>
    if lo ≤ b.toNat ∧ b.toNat ≤ hi then follow n 0x80 0xbf (v * 64 + b.toNat % 64) (taken + 1) bs
    else (none, taken)

/-- The first character of a byte string, none if it is ill-formed, and how many bytes after
    the first belong to it. -/
def first (b : UInt8) (bs : Bytes) : Option Char × Nat :=
  match tailOf? b.toNat with
  | none => (none, 0)
  | some (n, lo, hi) =>
    let lead := if n = 0 then b.toNat else b.toNat % twoTo (6 - n)
    match follow n lo hi lead 0 bs with
    | (some v, taken) => (some (Char.ofNat v), taken)
    | (none, taken) => (none, taken)

def decodeChars? (bs : Bytes) : Option (List Char) :=
  match bs with
  | [] => some []
  | b :: bs =>
    match first b bs with
    | (some c, n) => (decodeChars? (bs.drop n)).map (c :: ·)
    | (none, _) => none
termination_by bs.length
decreasing_by rw [List.length_drop, List.length_cons]; omega

def decode? (bs : Bytes) : Option String := (decodeChars? bs).map String.ofList

def lossyChars (bs : Bytes) : List Char :=
  match bs with
  | [] => []
  | b :: bs =>
    let (c, n) := first b bs
    c.getD (Char.ofNat 0xfffd) :: lossyChars (bs.drop n)
termination_by bs.length
decreasing_by rw [List.length_drop, List.length_cons]; omega

def decodeLossy (bs : Bytes) : String := String.ofList (lossyChars bs)

/-! ## Reading a text back -/

private theorem toList_loop (bs : ByteArray) (i : Nat) (r : List UInt8) :
    ByteArray.toList.loop bs i r = r.reverse ++ bs.data.toList.drop i := by
  fun_induction ByteArray.toList.loop bs i r with
  | case1 i r h ih =>
    have hi : i < bs.data.toList.length := by simpa using h
    rw [ih, List.drop_eq_getElem_cons (l := bs.data.toList) hi]
    simp [ByteArray.get!, h]
  | case2 i r h =>
    rw [List.drop_eq_nil_of_le (by simpa using Nat.le_of_not_lt h)]
    simp

/-- The bytes of a text are those of its characters in turn. -/
theorem encode_eq_flatMap (s : String) : encode s = s.toList.flatMap String.utf8EncodeChar := by
  have h : s.toUTF8 = (s.toList.flatMap String.utf8EncodeChar).toByteArray := by
    rw [String.toUTF8_eq_toByteArray, ← String.utf8Encode_toList, List.utf8Encode]
  rw [encode, h, ByteArray.toList, toList_loop, List.toList_data_toByteArray]
  rfl

/-- A character whose follow-up bytes are all there. -/
private theorem first_of_follow {b : UInt8} {bs : Bytes} {n lo hi v taken : Nat}
    (ht : tailOf? b.toNat = some (n, lo, hi))
    (hf : follow n lo hi (if n = 0 then b.toNat else b.toNat % twoTo (6 - n)) 0 bs =
      (some v, taken)) :
    first b bs = (some (Char.ofNat v), taken) := by
  simp only [first, ht, hf]

private theorem toNat_ofNat {x : Nat} (hx : x < 256) : (UInt8.ofNat x).toNat = x := by
  rw [UInt8.toNat_ofNat']
  exact Nat.mod_eq_of_lt hx

private theorem follow_cons {n lo hi v taken x : Nat} {bs : Bytes} (hx : x < 256)
    (h : lo ≤ x ∧ x ≤ hi) :
    follow (n + 1) lo hi v taken (UInt8.ofNat x :: bs) =
      follow n 0x80 0xbf (v * 64 + x % 64) (taken + 1) bs := by
  rw [follow, toNat_ofNat hx, if_pos h]

/-- The second of three bytes is one that may follow the first. Surrogates have no such bytes. -/
private theorem tailOf_of_three {v : Nat} (h : 0x800 ≤ v ∧ v ≤ 0xffff)
    (hv : v < 0xd800 ∨ 0xdfff < v) :
    ∃ lo hi, tailOf? (v / 4096 % 16 + 0xe0) = some (2, lo, hi) ∧
      lo ≤ v / 64 % 64 + 0x80 ∧ v / 64 % 64 + 0x80 ≤ hi := by
  unfold tailOf?
  repeat' split
  all_goals first | omega | exact ⟨_, _, rfl, by omega, by omega⟩

/-- The second of four bytes is one that may follow the first. -/
private theorem tailOf_of_four {v : Nat} (h : 0x10000 ≤ v ∧ v < 0x110000) :
    ∃ lo hi, tailOf? (v / 262144 % 8 + 0xf0) = some (3, lo, hi) ∧
      lo ≤ v / 4096 % 64 + 0x80 ∧ v / 4096 % 64 + 0x80 ≤ hi := by
  unfold tailOf?
  repeat' split
  all_goals first | omega | exact ⟨_, _, rfl, by omega, by omega⟩

/-- Bytes that begin with those of a character begin with that character. -/
theorem first_utf8EncodeChar (c : Char) (bs : Bytes) :
    ∃ b rest, String.utf8EncodeChar c = b :: rest ∧
      first b (rest ++ bs) = (some c, rest.length) := by
  have hvalid : c.toNat < 0xd800 ∨ 0xdfff < c.toNat ∧ c.toNat < 0x110000 := c.valid
  have hc : Char.ofNat c.toNat = c := c.ofNat_toNat
  simp only [String.utf8EncodeChar, show c.val.toNat = c.toNat from rfl]
  generalize c.toNat = v at hvalid hc
  subst hc
  -- One case for each number of bytes.
  by_cases h1 : v ≤ 0x7f
  · have hb : (UInt8.ofNat v).toNat = v := toNat_ofNat (by omega)
    have ht : tailOf? v = some (0, 0x80, 0xbf) := if_pos (by omega)
    refine ⟨_, _, if_pos h1, first_of_follow (by rw [hb, ht]) ?_⟩
    rw [if_pos rfl, hb]
    rfl
  rw [if_neg h1]
  by_cases h2 : v ≤ 0x7ff
  · have hb : (UInt8.ofNat (v / 64 % 32 + 0xc0)).toNat = v / 64 % 32 + 0xc0 :=
      toNat_ofNat (by omega)
    have ht : tailOf? (v / 64 % 32 + 0xc0) = some (1, 0x80, 0xbf) := by
      rw [tailOf?, if_neg (by omega), if_pos (by omega)]
    refine ⟨_, _, if_pos h2, first_of_follow (by rw [hb, ht]) ?_⟩
    have hv : (v / 64 % 32 + 0xc0) % 32 * 64 + (v % 64 + 0x80) % 64 = v := by omega
    rw [hb, List.cons_append, follow_cons (by omega) (by omega), follow]
    exact Prod.ext (congrArg some hv) rfl
  rw [if_neg h2]
  by_cases h3 : v ≤ 0xffff
  · have hb : (UInt8.ofNat (v / 4096 % 16 + 0xe0)).toNat = v / 4096 % 16 + 0xe0 :=
      toNat_ofNat (by omega)
    obtain ⟨lo, hi, ht, hlo, hhi⟩ := tailOf_of_three (v := v) (by omega) (by omega)
    refine ⟨_, _, if_pos h3, first_of_follow (by rw [hb, ht]) ?_⟩
    have hv : ((v / 4096 % 16 + 0xe0) % 16 * 64 + (v / 64 % 64 + 0x80) % 64) * 64 +
        (v % 64 + 0x80) % 64 = v := by omega
    rw [hb, List.cons_append, follow_cons (by omega) ⟨hlo, hhi⟩, List.cons_append,
      follow_cons (by omega) (by omega), follow]
    exact Prod.ext (congrArg some hv) rfl
  · have hb : (UInt8.ofNat (v / 262144 % 8 + 0xf0)).toNat = v / 262144 % 8 + 0xf0 :=
      toNat_ofNat (by omega)
    obtain ⟨lo, hi, ht, hlo, hhi⟩ := tailOf_of_four (v := v) (by omega)
    refine ⟨_, _, if_neg h3, first_of_follow (by rw [hb, ht]) ?_⟩
    have hv : (((v / 262144 % 8 + 0xf0) % 8 * 64 + (v / 4096 % 64 + 0x80) % 64) * 64 +
        (v / 64 % 64 + 0x80) % 64) * 64 + (v % 64 + 0x80) % 64 = v := by omega
    rw [hb, List.cons_append, follow_cons (by omega) ⟨hlo, hhi⟩, List.cons_append,
      follow_cons (by omega) (by omega), List.cons_append, follow_cons (by omega) (by omega),
      follow]
    exact Prod.ext (congrArg some hv) rfl

theorem lossyChars_flatMap (cs : List Char) :
    lossyChars (cs.flatMap String.utf8EncodeChar) = cs := by
  induction cs with
  | nil => rw [List.flatMap_nil, lossyChars]
  | cons c cs ih =>
    obtain ⟨b, rest, hbytes, hfirst⟩ :=
      first_utf8EncodeChar c (cs.flatMap String.utf8EncodeChar)
    rw [List.flatMap_cons, hbytes, List.cons_append, lossyChars, hfirst]
    change c :: lossyChars ((rest ++ cs.flatMap String.utf8EncodeChar).drop rest.length) = c :: cs
    rw [List.drop_left, ih]

/-- A text is read back from its bytes. -/
theorem decodeLossy_encode (s : String) : decodeLossy (encode s) = s := by
  rw [decodeLossy, encode_eq_flatMap, lossyChars_flatMap, String.ofList_toList]

theorem decodeChars?_flatMap (cs : List Char) :
    decodeChars? (cs.flatMap String.utf8EncodeChar) = some cs := by
  induction cs with
  | nil => rw [List.flatMap_nil, decodeChars?]
  | cons c cs ih =>
    obtain ⟨b, rest, hbytes, hfirst⟩ :=
      first_utf8EncodeChar c (cs.flatMap String.utf8EncodeChar)
    rw [List.flatMap_cons, hbytes, List.cons_append, decodeChars?, hfirst]
    change (decodeChars? ((rest ++ cs.flatMap String.utf8EncodeChar).drop rest.length)).map
      (c :: ·) = some (c :: cs)
    rw [List.drop_left, ih]
    rfl

/-! ## Only texts are read -/

private theorem follow_succ {n lo hi v taken taken' w : Nat} {bs : Bytes}
    (h : follow (n + 1) lo hi v taken bs = (some w, taken')) :
    ∃ b rest, bs = b :: rest ∧ (lo ≤ b.toNat ∧ b.toNat ≤ hi) ∧
      follow n 0x80 0xbf (v * 64 + b.toNat % 64) (taken + 1) rest = (some w, taken') := by
  cases bs with
  | nil => cases h
  | cons b rest =>
    rw [follow] at h
    split at h
    · next hb => exact ⟨b, rest, rfl, hb, h⟩
    · cases h

/-- The lead bytes by how many bytes follow them, with the bounds of the first of these. -/
private theorem tailOf_cases {b n lo hi : Nat} (h : tailOf? b = some (n, lo, hi)) :
    n = 0 ∧ b < 0x80 ∨
    n = 1 ∧ (0xc2 ≤ b ∧ b ≤ 0xdf) ∧ lo = 0x80 ∧ hi = 0xbf ∨
    n = 2 ∧ (0xe0 ≤ b ∧ b ≤ 0xef) ∧ (0x80 ≤ lo ∧ hi ≤ 0xbf) ∧ (b = 0xe0 → 0xa0 ≤ lo) ∧
      (b = 0xed → hi ≤ 0x9f) ∨
    n = 3 ∧ (0xf0 ≤ b ∧ b ≤ 0xf4) ∧ (0x80 ≤ lo ∧ hi ≤ 0xbf) ∧ (b = 0xf0 → 0x90 ≤ lo) ∧
      (b = 0xf4 → hi ≤ 0x8f) := by
  unfold tailOf? at h
  repeat' split at h
  all_goals cases h
  all_goals omega

private theorem ofNat_eq {x : Nat} {b : UInt8} (h : x = b.toNat) : UInt8.ofNat x = b := by
  rw [h, UInt8.ofNat_toNat]

private theorem utf8EncodeChar_ofNat {v : Nat} (h : v < 0xd800 ∨ 0xdfff < v ∧ v < 0x110000) :
    String.utf8EncodeChar (Char.ofNat v) =
      if v ≤ 0x7f then [UInt8.ofNat v]
      else if v ≤ 0x7ff then [UInt8.ofNat (v / 64 % 32 + 0xc0), UInt8.ofNat (v % 64 + 0x80)]
      else if v ≤ 0xffff then [UInt8.ofNat (v / 4096 % 16 + 0xe0),
        UInt8.ofNat (v / 64 % 64 + 0x80), UInt8.ofNat (v % 64 + 0x80)]
      else [UInt8.ofNat (v / 262144 % 8 + 0xf0), UInt8.ofNat (v / 4096 % 64 + 0x80),
        UInt8.ofNat (v / 64 % 64 + 0x80), UInt8.ofNat (v % 64 + 0x80)] := by
  have hv : (Char.ofNat v).val.toNat = v := by
    rw [Char.ofNat, dif_pos h]
    rfl
  simp only [String.utf8EncodeChar, hv]

private theorem utf8EncodeChar_two {b b₁ : UInt8} (hb : 0xc2 ≤ b.toNat ∧ b.toNat ≤ 0xdf)
    (h₁ : 0x80 ≤ b₁.toNat ∧ b₁.toNat ≤ 0xbf) :
    String.utf8EncodeChar (Char.ofNat (b.toNat % 32 * 64 + b₁.toNat % 64)) = [b, b₁] := by
  rw [utf8EncodeChar_ofNat (by omega), if_neg (by omega), if_pos (by omega),
    ofNat_eq (b := b) (by omega), ofNat_eq (b := b₁) (by omega)]

private theorem utf8EncodeChar_three {b b₁ b₂ : UInt8} (hb : 0xe0 ≤ b.toNat ∧ b.toNat ≤ 0xef)
    (h₁ : 0x80 ≤ b₁.toNat ∧ b₁.toNat ≤ 0xbf) (hlow : b.toNat = 0xe0 → 0xa0 ≤ b₁.toNat)
    (hhigh : b.toNat = 0xed → b₁.toNat ≤ 0x9f) (h₂ : 0x80 ≤ b₂.toNat ∧ b₂.toNat ≤ 0xbf) :
    String.utf8EncodeChar
      (Char.ofNat ((b.toNat % 16 * 64 + b₁.toNat % 64) * 64 + b₂.toNat % 64)) = [b, b₁, b₂] := by
  rw [utf8EncodeChar_ofNat (by omega), if_neg (by omega), if_neg (by omega), if_pos (by omega),
    ofNat_eq (b := b) (by omega), ofNat_eq (b := b₁) (by omega), ofNat_eq (b := b₂) (by omega)]

private theorem utf8EncodeChar_four {b b₁ b₂ b₃ : UInt8}
    (hb : 0xf0 ≤ b.toNat ∧ b.toNat ≤ 0xf4) (h₁ : 0x80 ≤ b₁.toNat ∧ b₁.toNat ≤ 0xbf)
    (hlow : b.toNat = 0xf0 → 0x90 ≤ b₁.toNat) (hhigh : b.toNat = 0xf4 → b₁.toNat ≤ 0x8f)
    (h₂ : 0x80 ≤ b₂.toNat ∧ b₂.toNat ≤ 0xbf) (h₃ : 0x80 ≤ b₃.toNat ∧ b₃.toNat ≤ 0xbf) :
    String.utf8EncodeChar (Char.ofNat
      (((b.toNat % 8 * 64 + b₁.toNat % 64) * 64 + b₂.toNat % 64) * 64 + b₃.toNat % 64)) =
      [b, b₁, b₂, b₃] := by
  rw [utf8EncodeChar_ofNat (by omega), if_neg (by omega), if_neg (by omega), if_neg (by omega),
    ofNat_eq (b := b) (by omega), ofNat_eq (b := b₁) (by omega), ofNat_eq (b := b₂) (by omega),
    ofNat_eq (b := b₃) (by omega)]

/-- A character that is read has just the bytes that it was read from. -/
theorem utf8EncodeChar_of_first {b : UInt8} {bs : Bytes} {c : Char} {n : Nat}
    (h : first b bs = (some c, n)) :
    ∃ rest after, bs = rest ++ after ∧ rest.length = n ∧ String.utf8EncodeChar c = b :: rest := by
  unfold first at h
  split at h
  · cases h
  next k lo hi htail =>
  dsimp only at h
  split at h
  case h_2 => cases h
  next v taken hfollow =>
  cases h
  have hlead (m : Nat) (hm : m ≠ 0) : (if m = 0 then b.toNat else b.toNat % twoTo (6 - m)) =
    b.toNat % twoTo (6 - m) := if_neg hm
  obtain ⟨rfl, hb⟩ | ⟨rfl, hb, rfl, rfl⟩ | ⟨rfl, hb, hbounds, hlow, hhigh⟩ |
    ⟨rfl, hb, hbounds, hlow, hhigh⟩ := tailOf_cases htail
  · cases hfollow
    refine ⟨[], bs, rfl, rfl, ?_⟩
    rw [if_pos rfl, utf8EncodeChar_ofNat (by omega), if_pos (by omega), UInt8.ofNat_toNat]
  · rw [hlead 1 (by decide), show twoTo (6 - 1) = 32 from rfl] at hfollow
    obtain ⟨b₁, rest, rfl, h₁, hfollow⟩ := follow_succ hfollow
    obtain ⟨rfl, rfl⟩ : b.toNat % 32 * 64 + b₁.toNat % 64 = v ∧ 1 = n := by
      simpa [follow] using hfollow
    exact ⟨[b₁], rest, rfl, rfl, utf8EncodeChar_two hb h₁⟩
  · rw [hlead 2 (by decide), show twoTo (6 - 2) = 16 from rfl] at hfollow
    obtain ⟨b₁, rest, rfl, h₁, hfollow⟩ := follow_succ hfollow
    obtain ⟨b₂, rest, rfl, h₂, hfollow⟩ := follow_succ hfollow
    obtain ⟨rfl, rfl⟩ : (b.toNat % 16 * 64 + b₁.toNat % 64) * 64 + b₂.toNat % 64 = v ∧
        2 = n := by simpa [follow] using hfollow
    exact ⟨[b₁, b₂], rest, rfl, rfl,
      utf8EncodeChar_three hb (by omega) (by omega) (by omega) h₂⟩
  · rw [hlead 3 (by decide), show twoTo (6 - 3) = 8 from rfl] at hfollow
    obtain ⟨b₁, rest, rfl, h₁, hfollow⟩ := follow_succ hfollow
    obtain ⟨b₂, rest, rfl, h₂, hfollow⟩ := follow_succ hfollow
    obtain ⟨b₃, rest, rfl, h₃, hfollow⟩ := follow_succ hfollow
    obtain ⟨rfl, rfl⟩ : ((b.toNat % 8 * 64 + b₁.toNat % 64) * 64 + b₂.toNat % 64) * 64 +
        b₃.toNat % 64 = v ∧ 3 = n := by simpa [follow] using hfollow
    exact ⟨[b₁, b₂, b₃], rest, rfl, rfl,
      utf8EncodeChar_four hb (by omega) (by omega) (by omega) h₂ h₃⟩

theorem eq_flatMap_of_decodeChars? {bs : Bytes} {cs : List Char} (h : decodeChars? bs = some cs) :
    bs = cs.flatMap String.utf8EncodeChar := by
  induction bs using decodeChars?.induct generalizing cs with
  | case1 =>
    rw [decodeChars?] at h
    cases h
    rfl
  | case2 b bs c n hfirst ih =>
    rw [decodeChars?, hfirst] at h
    obtain ⟨rest, after, rfl, rfl, hbytes⟩ := utf8EncodeChar_of_first hfirst
    change ((decodeChars? ((rest ++ after).drop rest.length)).map (c :: ·)) = some cs at h
    rw [List.drop_left] at h ih
    obtain ⟨cs, hcs, rfl⟩ := Option.map_eq_some_iff.1 h
    rw [List.flatMap_cons, hbytes, List.cons_append, ← ih hcs]
  | case3 b bs n hfirst =>
    rw [decodeChars?, hfirst] at h
    cases h

/-- Bytes are read as a text if they are its bytes. -/
theorem decode?_eq_some_iff {bs : Bytes} {s : String} : decode? bs = some s ↔ bs = encode s := by
  constructor
  · intro h
    obtain ⟨cs, hcs, rfl⟩ := Option.map_eq_some_iff.1 h
    rw [encode_eq_flatMap, String.toList_ofList, eq_flatMap_of_decodeChars? hcs]
  · rintro rfl
    rw [decode?, encode_eq_flatMap, decodeChars?_flatMap, Option.map_some, String.ofList_toList]

end NodeFleet.Utf8

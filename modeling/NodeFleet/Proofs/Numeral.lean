/-
  Amounts as numerals.

  * `spelled`: the number that digits spell; `toDigits_spelled`, `eq_of_spelled_eq`: digits of which
    none is superfluous, or of a given count, are known by it.
  * `Numeral`: digits in front of a point and behind it, how they are written and what they are
    worth. `Numeral.Canonical`: no digit is superfluous.
  * `Canonical.eq_of_text_eq`, `Canonical.eq_of_value_eq`: a text is at most one canonical numeral,
    and a number has at most one.
  * `Parts`: the digits of an amount in front of the point and behind it, all of them.
  * `format_exact`: an amount is written as its canonical numeral, and its double is read from it.
-/
import NodeFleet.Proofs.JsonText
import NodeFleet.Units
import Mathlib.Algebra.Order.Field.Rat
import Mathlib.Data.List.DropRight
import Mathlib.Tactic.Positivity
import Mathlib.Tactic.Ring

namespace NodeFleet.Units

/-! ## Digits -/

/-- The number that digits spell. -/
def spelled (ds : List Char) : ℕ := Nat.ofDigitChars 10 ds 0

theorem spelled_append (xs ys : List Char) :
    spelled (xs ++ ys) = 10 ^ ys.length * spelled xs + spelled ys := by
  rw [spelled, Nat.ofDigitChars_append, Nat.ofDigitChars_eq_ofDigitChars_zero]
  rfl

theorem spelled_replicate_zero (n : ℕ) : spelled (List.replicate n '0') = 0 := by
  rw [spelled, Nat.ofDigitChars_replicate_zero, Nat.mul_zero]

theorem spelled_toDigits (n : ℕ) : spelled (Nat.toDigits 10 n) = n := Nat.ofDigitChars_ten_toDigits

theorem isDigit_of_mem_toDigits {n : ℕ} {c : Char} (h : c ∈ Nat.toDigits 10 n) :
    c.isDigit = true :=
  Nat.isDigit_of_mem_toDigits (by decide) (by decide) h

theorem isDigit_of_mem_replicate_zero {n : ℕ} {c : Char} (h : c ∈ List.replicate n '0') :
    c.isDigit = true := by
  rw [List.eq_of_mem_replicate h]
  decide

theorem exists_digitChar {c : Char} (h : c.isDigit = true) : ∃ d < 10, c = Nat.digitChar d := by
  have hall : ∀ d < 10, Nat.digitChar d = Char.ofNat (48 + d) := by decide
  obtain ⟨hlow, hhigh⟩ : 48 ≤ c.toNat ∧ c.toNat ≤ 57 := Char.isDigit_iff_toNat.1 h
  have hlt : c.toNat - 48 < 10 := by omega
  exact ⟨c.toNat - 48, hlt, by rw [hall _ hlt, Nat.add_sub_cancel' hlow, Char.ofNat_toNat]⟩

theorem spelled_concat {d : ℕ} (hd : d < 10) (ds : List Char) :
    spelled (ds ++ [Nat.digitChar d]) = 10 * spelled ds + d := by
  have hlast : ∀ d < 10, spelled [Nat.digitChar d] = d := by decide
  rw [spelled_append, hlast d hd, List.length_singleton, pow_one]

variable {xs ys : List Char}

theorem spelled_lt (h : ∀ c ∈ xs, c.isDigit = true) : spelled xs < 10 ^ xs.length := by
  induction xs using List.reverseRecOn with
  | nil => decide
  | append_singleton xs x ih =>
    obtain ⟨hxs, hx⟩ := List.forall_mem_append.1 h
    obtain ⟨d, hd, rfl⟩ := exists_digitChar (hx x (List.mem_singleton_self x))
    have hlt := ih hxs
    rw [spelled_concat hd, List.length_append, List.length_singleton, pow_succ]
    omega

/-- Digits are known by their count and what they spell. -/
theorem eq_of_spelled_eq (hx : ∀ c ∈ xs, c.isDigit = true) (hy : ∀ c ∈ ys, c.isDigit = true)
    (hlength : xs.length = ys.length) (h : spelled xs = spelled ys) : xs = ys := by
  induction xs using List.reverseRecOn generalizing ys with
  | nil => exact (List.eq_nil_of_length_eq_zero hlength.symm).symm
  | append_singleton xs x ih =>
    obtain rfl | ⟨ys, y, rfl⟩ := ys.eq_nil_or_concat'
    · simp at hlength
    obtain ⟨hxs, hx⟩ := List.forall_mem_append.1 hx
    obtain ⟨hys, hy⟩ := List.forall_mem_append.1 hy
    obtain ⟨d, hd, rfl⟩ := exists_digitChar (hx x (List.mem_singleton_self x))
    obtain ⟨e, he, rfl⟩ := exists_digitChar (hy y (List.mem_singleton_self y))
    rw [spelled_concat hd, spelled_concat he] at h
    obtain rfl : d = e := by omega
    rw [ih hxs hys (by simpa using hlength) (by omega)]

/-- Digits without a superfluous zero in front are those of the number that they spell. -/
theorem toDigits_spelled (h : ∀ c ∈ xs, c.isDigit = true) (hne : xs ≠ [])
    (hzero : xs.head? = some '0' → xs = ['0']) : Nat.toDigits 10 (spelled xs) = xs := by
  induction xs using List.reverseRecOn with
  | nil => exact absurd rfl hne
  | append_singleton xs x ih =>
    obtain ⟨hxs, hx⟩ := List.forall_mem_append.1 h
    obtain ⟨d, hd, rfl⟩ := exists_digitChar (hx x (List.mem_singleton_self x))
    rw [spelled_concat hd, Nat.toDigits_eq_if (by decide)]
    by_cases hempty : xs = []
    · subst hempty
      have hsmall : 10 * spelled [] + d = d := Nat.zero_add d
      rw [hsmall, if_pos hd, List.nil_append]
    · have hhead : xs.head? ≠ some '0' := by
        intro hhead
        have hall := hzero (by rw [List.head?_append_of_ne_nil _ hempty, hhead])
        have hlength := congrArg List.length hall
        rw [List.length_append] at hlength
        exact hempty (List.eq_nil_of_length_eq_zero (by simpa using hlength))
      have hdigits := ih hxs hempty fun hzero => absurd hzero hhead
      -- What the digits in front of the last spell is not zero, or they would be a zero.
      have hpos : spelled xs ≠ 0 := by
        intro hzero
        rw [hzero] at hdigits
        exact hhead (by rw [← hdigits]; rfl)
      rw [if_neg (by omega), show (10 * spelled xs + d) / 10 = spelled xs by omega,
        show (10 * spelled xs + d) % 10 = d by omega, hdigits]

/-! ## Numerals -/

/-- Digits in front of a point and behind it. -/
structure Numeral where
  whole : List Char
  fraction : List Char

namespace Numeral

/-- How a numeral is written; without digits behind it there is no point. -/
def text (n : Numeral) : List Char :=
  if n.fraction = [] then n.whole else n.whole ++ '.' :: n.fraction

/-- The number that the digits spell without the point. -/
def count (n : Numeral) : ℕ := spelled (n.whole ++ n.fraction)

/-- What a numeral is worth: each place behind the point divides by ten. -/
def value (n : Numeral) : ℚ := n.count / 10 ^ n.fraction.length

/-- A numeral without superfluous digits. -/
structure Canonical (n : Numeral) : Prop where
  isDigit : ∀ c ∈ n.whole ++ n.fraction, c.isDigit = true
  whole_ne_nil : n.whole ≠ []
  /-- A zero stands in front only by itself. -/
  leading : n.whole.head? = some '0' → n.whole = ['0']
  trailing : n.fraction.getLast? ≠ some '0'

namespace Canonical

variable {n m : Numeral}

theorem isDigit_whole (h : n.Canonical) : ∀ c ∈ n.whole, c.isDigit = true :=
  (List.forall_mem_append.1 h.isDigit).1

theorem isDigit_fraction (h : n.Canonical) : ∀ c ∈ n.fraction, c.isDigit = true :=
  (List.forall_mem_append.1 h.isDigit).2

/-- The point divides the text. -/
theorem takeWhile_text (h : n.Canonical) : n.text.takeWhile Char.isDigit = n.whole ∧
    n.text.dropWhile Char.isDigit = if n.fraction = [] then [] else '.' :: n.fraction := by
  unfold text
  split
  · exact ⟨List.takeWhile_eq_self_iff.2 h.isDigit_whole, List.dropWhile_eq_nil_iff.2 h.isDigit_whole⟩
  · constructor
    · rw [List.takeWhile_append_of_pos h.isDigit_whole, List.takeWhile_cons_of_neg (by decide),
        List.append_nil]
    · rw [List.dropWhile_append_of_pos h.isDigit_whole, List.dropWhile_cons_of_neg (by decide)]

theorem eq_of_text_eq (hn : n.Canonical) (hm : m.Canonical) (h : n.text = m.text) : n = m := by
  obtain ⟨hwhole, hrest⟩ := hn.takeWhile_text
  obtain ⟨hwhole', hrest'⟩ := hm.takeWhile_text
  rw [h] at hwhole hrest
  rw [hrest] at hrest'
  have hfraction : n.fraction = m.fraction := by
    split at hrest' <;> split at hrest'
    · next h h' => rw [h, h']
    · cases hrest'
    · cases hrest'
    · exact (List.cons.inj hrest').2
  cases n
  cases m
  rw [mk.injEq]
  exact ⟨hwhole.symm.trans hwhole', hfraction⟩

/-- With digits behind the point the last one is not zero. -/
theorem not_dvd_count (h : n.Canonical) (hplaces : n.fraction ≠ []) : ¬10 ∣ n.count := by
  obtain hnil | ⟨front, c, heq⟩ := n.fraction.eq_nil_or_concat'
  · exact absurd hnil hplaces
  have hc : c.isDigit = true := h.isDigit_fraction c (by rw [heq]; simp)
  have hlast := h.trailing
  rw [heq, List.getLast?_concat] at hlast
  obtain ⟨d, hd, rfl⟩ := exists_digitChar hc
  rw [count, heq, ← List.append_assoc, spelled_concat hd]
  intro hdvd
  obtain rfl : d = 0 := by omega
  exact hlast rfl

theorem length_fraction_le (hm : m.Canonical) (h : n.value = m.value) :
    m.fraction.length ≤ n.fraction.length := by
  by_contra hlt
  obtain ⟨k, hk⟩ := Nat.exists_eq_add_of_lt (not_le.1 hlt)
  have hcross : (n.count : ℚ) * 10 ^ m.fraction.length = m.count * 10 ^ n.fraction.length :=
    (div_eq_div_iff (by positivity) (by positivity)).1 h
  have hcount : m.count = 10 * (n.count * 10 ^ k) := by
    have hpos : 0 < 10 ^ n.fraction.length := by positivity
    refine Nat.eq_of_mul_eq_mul_right hpos ?_
    have hnat : n.count * 10 ^ m.fraction.length = m.count * 10 ^ n.fraction.length := by
      exact_mod_cast hcross
    rw [← hnat, hk]
    ring
  refine hm.not_dvd_count (fun hnil => ?_) ⟨_, hcount⟩
  rw [hnil] at hlt
  exact hlt (Nat.zero_le _)

/-- **A number has at most one canonical numeral.** -/
theorem eq_of_value_eq (hn : n.Canonical) (hm : m.Canonical) (h : n.value = m.value) : n = m := by
  have hplaces : n.fraction.length = m.fraction.length :=
    le_antisymm (hn.length_fraction_le h.symm) (hm.length_fraction_le h)
  have hcount : n.count = m.count := by
    have hpos : (10 : ℚ) ^ m.fraction.length ≠ 0 := by positivity
    rw [value, value, hplaces, div_left_inj' hpos] at h
    exact_mod_cast h
  have hfront (n : Numeral) (hn : n.Canonical) :
      spelled n.whole = n.count / 10 ^ n.fraction.length ∧
        spelled n.fraction = n.count % 10 ^ n.fraction.length := by
    have hlt := spelled_lt hn.isDigit_fraction
    rw [count, spelled_append]
    rw [Nat.mul_add_div (by positivity), Nat.div_eq_of_lt hlt, Nat.mul_add_mod,
      Nat.mod_eq_of_lt hlt, Nat.add_zero]
    exact ⟨rfl, rfl⟩
  have hwhole : n.whole = m.whole := by
    rw [← toDigits_spelled hn.isDigit_whole hn.whole_ne_nil hn.leading,
      ← toDigits_spelled hm.isDigit_whole hm.whole_ne_nil hm.leading, (hfront n hn).1,
      (hfront m hm).1, hcount, hplaces]
  have hfraction : n.fraction = m.fraction := by
    refine eq_of_spelled_eq hn.isDigit_fraction hm.isDigit_fraction hplaces ?_
    rw [(hfront n hn).2, (hfront m hm).2, hcount, hplaces]
  cases n
  cases m
  rw [mk.injEq]
  exact ⟨hwhole, hfraction⟩

theorem read?_text (h : n.Canonical) : Binary64.read? (String.ofList n.text) =
    some (Binary64.ofDecimal false n.count (-(n.fraction.length : ℤ))) := by
  rw [← zero_sub]
  unfold text
  split
  · next hnil =>
    have hread := Binary64.read?_digits h.whole_ne_nil h.isDigit_whole h.isDigit_fraction
      (.inr ⟨rfl, hnil⟩)
    rw [List.append_nil] at hread
    exact hread
  · exact Binary64.read?_digits h.whole_ne_nil h.isDigit_whole h.isDigit_fraction (.inl rfl)

end Canonical

end Numeral

/-! ## Amounts -/

theorem exists_replicate_zero (ds : List Char) :
    ∃ k, ds = dropTrailingZeros ds ++ List.replicate k '0' := by
  have hzeros : ds.rtakeWhile (· = '0') = List.replicate (ds.rtakeWhile (· = '0')).length '0' :=
    List.eq_replicate_iff.2 ⟨rfl, fun c hc => by simpa using List.mem_rtakeWhile_imp hc⟩
  refine ⟨_, Eq.trans ?_ (congrArg (dropTrailingZeros ds ++ ·) hzeros)⟩
  exact List.rdropWhile_append_rtakeWhile.symm

theorem getLast?_dropTrailingZeros (ds : List Char) :
    (dropTrailingZeros ds).getLast? ≠ some '0' := by
  intro h
  have hne : ds.rdropWhile (· = '0') ≠ [] := by
    intro hnil
    rw [show dropTrailingZeros ds = [] from hnil] at h
    cases h
  have hlast := List.rdropWhile_last_not (· = '0') ds hne
  rw [show dropTrailingZeros ds = ds.rdropWhile (· = '0') from rfl,
    List.getLast?_eq_some_getLast hne] at h
  exact hlast (by simpa using h)

/-- The digits of an amount in front of the point and in all places behind it. -/
structure Parts (value places : ℕ) (whole fraction : List Char) : Prop where
  isDigit : ∀ c ∈ whole ++ fraction, c.isDigit = true
  whole_ne_nil : whole ≠ []
  leading : whole.head? = some '0' → whole = ['0']
  length_fraction : fraction.length = places
  spelled_eq : spelled (whole ++ fraction) = value

namespace Parts

variable {value places : ℕ} {whole fraction : List Char}

theorem canonical (h : Parts value places whole fraction) :
    Numeral.Canonical ⟨whole, dropTrailingZeros fraction⟩ where
  isDigit c hc := by
    obtain ⟨k, hk⟩ := exists_replicate_zero fraction
    refine h.isDigit c ?_
    rw [hk, ← List.append_assoc]
    exact List.mem_append_left _ hc
  whole_ne_nil := h.whole_ne_nil
  leading := h.leading
  trailing := getLast?_dropTrailingZeros fraction

/-- Zeros at the end are worth nothing. -/
theorem value_eq (h : Parts value places whole fraction) :
    Numeral.value ⟨whole, dropTrailingZeros fraction⟩ = value / 10 ^ places := by
  obtain ⟨k, hk⟩ := exists_replicate_zero fraction
  have hplaces : places = (dropTrailingZeros fraction).length + k := by
    rw [← h.length_fraction, ← List.length_replicate (n := k) (a := '0'), ← List.length_append, ← hk]
  have hsplit : whole ++ fraction =
      (whole ++ dropTrailingZeros fraction) ++ List.replicate k '0' := by
    rw [List.append_assoc, ← hk]
  have hvalue : value = 10 ^ k * spelled (whole ++ dropTrailingZeros fraction) := by
    rw [← h.spelled_eq, hsplit, spelled_append, spelled_replicate_zero, List.length_replicate,
      Nat.add_zero]
  have hpower : (10 : ℚ) ^ k ≠ 0 := by positivity
  rw [Numeral.value, Numeral.count, hplaces, hvalue, pow_add, mul_comm _ (10 ^ k)]
  push_cast
  exact (mul_div_mul_left _ _ hpower).symm

theorem of_zero (places : ℕ) : Parts 0 places ['0'] (List.replicate places '0') where
  isDigit c hc := isDigit_of_mem_replicate_zero (n := places + 1) hc
  whole_ne_nil := by simp
  leading _ := rfl
  length_fraction := List.length_replicate
  spelled_eq := spelled_replicate_zero (places + 1)

/-- A number with no more digits than there are places stands behind the point. -/
theorem of_le (h : (Nat.toDigits 10 value).length ≤ places) : Parts value places ['0']
    (List.replicate (places - (Nat.toDigits 10 value).length) '0' ++ Nat.toDigits 10 value) where
  isDigit c hc := by
    rcases List.mem_append.1 hc with hc | hc
    · exact isDigit_of_mem_replicate_zero (n := 1) hc
    rcases List.mem_append.1 hc with hc | hc
    · exact isDigit_of_mem_replicate_zero hc
    · exact isDigit_of_mem_toDigits hc
  whole_ne_nil := by simp
  leading _ := rfl
  length_fraction := by
    rw [List.length_append, List.length_replicate]
    omega
  spelled_eq := by
    have hzeros (n : ℕ) : spelled ('0' :: List.replicate n '0') = 0 := spelled_replicate_zero (n + 1)
    rw [List.singleton_append, ← List.cons_append, spelled_append, hzeros, spelled_toDigits,
      Nat.mul_zero, Nat.zero_add]

/-- The last digits of a longer number stand behind the point. -/
theorem of_lt (hzero : value ≠ 0) (h : places < (Nat.toDigits 10 value).length) :
    Parts value places ((Nat.toDigits 10 value).take ((Nat.toDigits 10 value).length - places))
      ((Nat.toDigits 10 value).drop ((Nat.toDigits 10 value).length - places)) where
  isDigit c hc := isDigit_of_mem_toDigits (by rwa [List.take_append_drop] at hc)
  whole_ne_nil hnil := by
    have hlength := congrArg List.length hnil
    rw [List.length_take, List.length_nil] at hlength
    omega
  leading hhead := by
    rw [List.head?_take, if_neg (by omega)] at hhead
    exact absurd hhead (Json.head?_toDigits_ne_zero hzero)
  length_fraction := by
    rw [List.length_drop]
    omega
  spelled_eq := by rw [List.take_append_drop, spelled_toDigits]

end Parts

/-- **An amount is written with the digits of its parts**, less the zeros at the end. -/
theorem exists_parts (value places : ℕ) : ∃ whole fraction, Parts value places whole fraction ∧
    formatDigits value places = Numeral.text ⟨whole, dropTrailingZeros fraction⟩ := by
  have htext (whole fraction : List Char) :
      numeral whole fraction = Numeral.text ⟨whole, dropTrailingZeros fraction⟩ := by
    unfold numeral Numeral.text
    cases dropTrailingZeros fraction <;> rfl
  by_cases hzero : value = 0
  · subst hzero
    have hnone : dropTrailingZeros (List.replicate places '0') = [] :=
      List.rdropWhile_eq_nil_iff.2 fun c hc => by simpa using List.eq_of_mem_replicate hc
    refine ⟨_, _, .of_zero places, ?_⟩
    rw [hnone]
    rfl
  · by_cases hshort : (Nat.toDigits 10 value).length ≤ places
    · refine ⟨_, _, .of_le hshort, ?_⟩
      simp only [formatDigits, hzero, hshort, if_true, if_false, htext]
    · refine ⟨_, _, .of_lt hzero (not_le.1 hshort), ?_⟩
      simp only [formatDigits, hzero, hshort, if_false, htext]

/-- **An amount is written exactly**, as the one canonical numeral of its value; so amounts that
    differ are told apart, and the double of an amount is read from what is written and never made
    up. -/
theorem format_exact (decimals : UInt8) :
    (∀ value : Word, ∃ n : Numeral, n.Canonical ∧ (format value decimals).toList = n.text ∧
      n.value = value.toNat / 10 ^ decimals.toNat ∧
      (∀ m : Numeral, m.Canonical → m.value = value.toNat / 10 ^ decimals.toNat → m = n) ∧
      Binary64.read? (format value decimals) = some (ofFixedPoint value decimals) ∧
      ofFixedPoint value decimals =
        Binary64.ofDecimal false n.count (-(n.fraction.length : ℤ))) ∧
    Function.Injective (format · decimals) := by
  have hexact (value : Word) : ∃ n : Numeral, n.Canonical ∧
      format value decimals = String.ofList n.text ∧
      n.value = value.toNat / 10 ^ decimals.toNat := by
    obtain ⟨whole, fraction, hparts, htext⟩ := exists_parts value.toNat decimals.toNat
    exact ⟨_, hparts.canonical, by rw [format, htext], hparts.value_eq⟩
  constructor
  · intro value
    obtain ⟨n, hcanonical, htext, hvalue⟩ := hexact value
    have hread := hcanonical.read?_text
    rw [← htext] at hread
    have hdouble : ofFixedPoint value decimals =
        Binary64.ofDecimal false n.count (-(n.fraction.length : ℤ)) := by
      rw [ofFixedPoint, hread, Option.getD_some]
    refine ⟨n, hcanonical, by rw [htext, String.toList_ofList], hvalue, fun m hm hsame => ?_,
      by rw [hread, hdouble], hdouble⟩
    exact hm.eq_of_value_eq hcanonical (hsame.trans hvalue.symm)
  · intro value value' hsame
    obtain ⟨n, hn, htext, hvalue⟩ := hexact value
    obtain ⟨n', hn', htext', hvalue'⟩ := hexact value'
    have hnumeral : n = n' := by
      refine hn.eq_of_text_eq hn' (String.ofList_injective ?_)
      exact htext.symm.trans (hsame.trans htext')
    have hpower : (10 : ℚ) ^ decimals.toNat ≠ 0 := by positivity
    rw [hnumeral, hvalue', div_left_inj' hpower] at hvalue
    exact BitVec.eq_of_toNat_eq (by exact_mod_cast hvalue.symm)

/-- The point inside the digits, and zeros behind it that are not written. -/
theorem format_exact_of_inside :
    Numeral.Canonical ⟨['1', '2'], ['3', '4', '5']⟩ ∧
      (format 1234500 5).toList = ['1', '2', '.', '3', '4', '5'] := by
  have hcanonical : Numeral.Canonical ⟨['1', '2'], ['3', '4', '5']⟩ := by constructor <;> simp
  refine ⟨hcanonical, ?_⟩
  have hvalue : Numeral.value ⟨['1', '2'], ['3', '4', '5']⟩ =
      (1234500 : Word).toNat / 10 ^ (5 : UInt8).toNat := by
    rw [show (1234500 : Word).toNat = 1234500 from rfl, show (5 : UInt8).toNat = 5 from rfl,
      Numeral.value, show Numeral.count ⟨['1', '2'], ['3', '4', '5']⟩ = 12345 from rfl]
    norm_num
  obtain ⟨n, -, htext, -, hunique, -⟩ := (format_exact 5).1 1234500
  rw [htext, ← hunique _ hcanonical hvalue]
  rfl

end NodeFleet.Units

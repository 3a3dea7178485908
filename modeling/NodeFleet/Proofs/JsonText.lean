/-
  Documents are read back from their text.

  * `readString_quote`: a string literal, whatever its characters.
  * `readNumeral_toDigits`: the digits of a number.
  * `Json.Spelt`: a document of texts and of numbers of plain digits.
  * `reads`: values, items and entries, each with one step more than those inside it.
  * `parse?_compact`: every such document is read back from its text.
-/
import NodeFleet.Json.Reader
import Mathlib.Tactic.SplitIfs

namespace NodeFleet.Json

/-! ## String literals -/

theorem hexValue?_hexDigit : ∀ n < 16, hexValue? (hexDigit n) = some n := by decide

theorem fourHex?_control {v : Nat} (hv : v < 32) (rest : List Char) :
    fourHex? ('0' :: '0' :: hexDigit (v / 16) :: hexDigit (v % 16) :: rest) = some (v, rest) := by
  have hzero : hexValue? '0' = some 0 := by decide
  have hhigh := hexValue?_hexDigit (v / 16) (by omega)
  have hlow := hexValue?_hexDigit (v % 16) (by omega)
  simp only [fourHex?, hzero, hhigh, hlow, Option.bind_eq_bind, Option.bind_some]
  congr 2
  omega

/-- A character is read back, escaped or not. -/
theorem readString_escapeChar (c : Char) (fuel : Nat) (rest acc : List Char) :
    readString (fuel + 1) (escapeChar c ++ rest) (some acc) =
      readString fuel rest (some (c :: acc)) := by
  unfold escapeChar
  split_ifs
  -- the short escapes
  iterate 7
    · subst c
      simp [readString, shortEscape?]
  · next hcontrol =>
    have hescape := fourHex?_control hcontrol rest
    simp [readString, hescape, show c.toNat < 0xD800 by omega]
  · next hquote hbackslash _ _ _ _ _ hcontrol => simp [readString, hquote, hbackslash, hcontrol]

theorem readString_escape {cs : List Char} {fuel : Nat} (h : cs.length < fuel)
    (rest acc : List Char) :
    readString fuel (cs.flatMap escapeChar ++ '"' :: rest) (some acc) =
      some (some (acc.reverse ++ cs), rest) := by
  induction cs generalizing fuel acc with
  | nil =>
    obtain ⟨fuel, rfl⟩ := Nat.exists_eq_succ_of_ne_zero (Nat.ne_of_gt h)
    simp [readString]
  | cons c cs ih =>
    obtain ⟨fuel, rfl⟩ := Nat.exists_eq_succ_of_ne_zero (Nat.ne_of_gt (Nat.zero_lt_of_lt h))
    rw [List.flatMap_cons, List.append_assoc, readString_escapeChar,
      ih (Nat.lt_of_succ_lt_succ h), List.reverse_cons, List.append_assoc]
    rfl

theorem length_le_length_escape (cs : List Char) : cs.length ≤ (cs.flatMap escapeChar).length := by
  induction cs with
  | nil => exact Nat.le_refl 0
  | cons c cs ih =>
    have hone : 1 ≤ (escapeChar c).length := by
      unfold escapeChar
      split_ifs <;> simp
    rw [List.flatMap_cons, List.length_append, List.length_cons]
    omega

theorem toList_quote (s : String) :
    (quote s).toList = '"' :: (s.toList.flatMap escapeChar ++ ['"']) := by
  simp [quote]

/-- **A string literal is read back**, whatever stands behind it. -/
theorem readString_quote (s : String) (rest : List Char) :
    readString ((s.toList.flatMap escapeChar ++ '"' :: rest).length + 1)
        (s.toList.flatMap escapeChar ++ '"' :: rest) (some []) = some (some s.toList, rest) := by
  have hle := length_le_length_escape s.toList
  rw [readString_escape]
  · rfl
  · rw [List.length_append]
    omega

/-! ## Numbers -/

/-- What may stand behind a value: nothing, a comma or a closing mark. -/
def Ends (rest : List Char) : Prop := ∀ c ∈ rest.head?, c = ',' ∨ c = ']' ∨ c = '}'

theorem ends_nil : Ends [] := nofun

theorem ends_cons {c : Char} (h : c = ',' ∨ c = ']' ∨ c = '}') (rest : List Char) :
    Ends (c :: rest) := by
  rintro _ ⟨⟩
  exact h

theorem isDecimal_of_mem_toDigits {n : Nat} {c : Char} (h : c ∈ Nat.toDigits 10 n) :
    isDecimal c = true := by
  have hdigit := Nat.isDigit_of_mem_toDigits (by decide) (by decide) h
  simpa [isDecimal, Char.isDigit, Char.le_def] using hdigit

/-- A number is spelt with digits, and with at least one of them. -/
theorem toDigits_eq_cons (n : Nat) : ∃ d ds, Nat.toDigits 10 n = d :: ds ∧ isDecimal d = true ∧
    ∀ c ∈ ds, isDecimal c = true := by
  cases hdigits : Nat.toDigits 10 n with
  | nil => exact absurd hdigits Nat.toDigits_ne_nil
  | cons d ds =>
    have hall : ∀ c ∈ d :: ds, isDecimal c = true :=
      fun c hc => isDecimal_of_mem_toDigits (hdigits ▸ hc)
    exact ⟨d, ds, rfl, List.forall_mem_cons.1 hall⟩

theorem ne_of_isDecimal {c x : Char} (hc : isDecimal c = true) (hx : isDecimal x = false) :
    c ≠ x := by
  rintro rfl
  rw [hc] at hx
  cases hx

theorem isBlank_of_isDecimal {c : Char} (h : isDecimal c = true) : isBlank c = false := by
  simp only [isBlank, Bool.or_eq_false_iff, decide_eq_false_iff_not]
  exact ⟨⟨⟨ne_of_isDecimal h (by decide), ne_of_isDecimal h (by decide)⟩,
    ne_of_isDecimal h (by decide)⟩, ne_of_isDecimal h (by decide)⟩

/-- A positive number is spelt without a leading zero. -/
theorem head?_toDigits_ne_zero {n : Nat} (h : n ≠ 0) : (Nat.toDigits 10 n).head? ≠ some '0' := by
  induction n using Nat.strongRecOn with
  | ind n ih =>
    rw [Nat.toDigits_eq_if (by decide)]
    split_ifs with hsmall
    · have hdigits : ∀ k < 10, k ≠ 0 → [Nat.digitChar k].head? ≠ some '0' := by decide
      exact hdigits n hsmall h
    · have hhead := ih (n / 10) (by omega) (by omega)
      obtain ⟨d, ds, hdigits, -⟩ := toDigits_eq_cons (n / 10)
      rw [hdigits] at hhead ⊢
      exact hhead

theorem Ends.takeWhile {rest : List Char} (h : Ends rest) : rest.takeWhile isDecimal = [] := by
  cases rest with
  | nil => rfl
  | cons c rest => rcases h c rfl with rfl | rfl | rfl <;> rfl

theorem Ends.dropWhile {rest : List Char} (h : Ends rest) : rest.dropWhile isDecimal = rest := by
  cases rest with
  | nil => rfl
  | cons c rest => rcases h c rfl with rfl | rfl | rfl <;> rfl

/-- The digits of a number are read back, whatever ends them. -/
theorem readNumeral_toDigits (n : Nat) {rest : List Char} (hrest : Ends rest) :
    readNumeral (Nat.toDigits 10 n ++ rest) =
      some (⟨false, Nat.toDigits 10 n, none, none⟩, rest) := by
  by_cases hn : n = 0
  · subst hn
    cases rest with
    | nil => rfl
    | cons c rest => rcases hrest c rfl with rfl | rfl | rfl <;> rfl
  · have hhead := head?_toDigits_ne_zero hn
    obtain ⟨d, ds, hdigits, hd, hds⟩ := toDigits_eq_cons n
    rw [hdigits] at hhead ⊢
    have hzero : d ≠ '0' := fun h => hhead (congrArg some h)
    have hminus : d ≠ '-' := ne_of_isDecimal hd (by decide)
    have htake : (ds ++ rest).takeWhile isDecimal = ds := by
      rw [List.takeWhile_append_of_pos hds, hrest.takeWhile, List.append_nil]
    have hdrop : (ds ++ rest).dropWhile isDecimal = rest := by
      rw [List.dropWhile_append_of_pos hds, hrest.dropWhile]
    cases rest with
    | nil =>
      rw [List.append_nil] at htake hdrop
      simp [readNumeral, hminus, hd, htake, hdrop]
    | cons c rest =>
      rcases hrest c rfl with rfl | rfl | rfl <;>
        simp [readNumeral, hminus, hd, htake, hdrop]

/-! ## Values -/

mutual
/-- Whether all numbers of a document are spelt with plain digits, and all its texts are texts. -/
def Spelt : Json → Prop
  | .num n => ∃ k, n = ⟨false, Nat.toDigits 10 k, none, none⟩
  | .brokenStr => False
  | .arr items => SpeltItems items
  | .obj entries => SpeltEntries entries
  | .null | .bool _ | .str _ => True
def SpeltItems : List Json → Prop
  | [] => True
  | x :: rest => x.Spelt ∧ SpeltItems rest
def SpeltEntries : List (String × Json) → Prop
  | [] => True
  | (_, v) :: rest => v.Spelt ∧ SpeltEntries rest
end

/-! ### The characters of a text -/

theorem toList_compact_num (n : Nat) :
    (Json.num ⟨false, Nat.toDigits 10 n, none, none⟩).compact.toList = Nat.toDigits 10 n := by
  simp [compact, Numeral.text]

theorem toList_compact_arr (items : List Json) :
    (Json.arr items).compact.toList = '[' :: ((compactItems items).toList ++ [']']) := by
  simp [compact]

theorem toList_compact_obj (entries : List (String × Json)) :
    (Json.obj entries).compact.toList = '{' :: ((compactEntries entries).toList ++ ['}']) := by
  simp [compact]

theorem toList_compactItems_cons (x y : Json) (rest : List Json) :
    (compactItems (x :: y :: rest)).toList =
      x.compact.toList ++ ',' :: (compactItems (y :: rest)).toList := by
  simp [compactItems]

/-- An entry with its key. -/
def entryChars (e : String × Json) : List Char :=
  '"' :: (e.1.toList.flatMap escapeChar ++ '"' :: ':' :: e.2.compact.toList)

theorem toList_compactEntries_singleton (e : String × Json) :
    (compactEntries [e]).toList = entryChars e := by
  obtain ⟨k, v⟩ := e
  simp [compactEntries, toList_quote, entryChars]

theorem toList_compactEntries_cons (e e' : String × Json) (rest : List (String × Json)) :
    (compactEntries (e :: e' :: rest)).toList =
      entryChars e ++ ',' :: (compactEntries (e' :: rest)).toList := by
  obtain ⟨k, v⟩ := e
  simp [compactEntries, toList_quote, entryChars]

theorem skipBlanks_cons {c : Char} (h : isBlank c = false) (rest : List Char) :
    skipBlanks (c :: rest) = c :: rest := by
  rw [skipBlanks, List.dropWhile_cons_of_neg (by simp [h])]

/-- The text of a value begins with no blank and closes nothing. -/
theorem head_compact {j : Json} (h : j.Spelt) :
    ∃ c cs, j.compact.toList = c :: cs ∧ isBlank c = false ∧ c ≠ ']' := by
  cases j with
  | null => exact ⟨'n', _, rfl, by decide, by decide⟩
  | bool b =>
    cases b
    · exact ⟨'f', _, rfl, by decide, by decide⟩
    · exact ⟨'t', _, rfl, by decide, by decide⟩
  | num n =>
    obtain ⟨k, rfl⟩ := h
    rw [toList_compact_num]
    obtain ⟨d, ds, hdigits, hd, -⟩ := toDigits_eq_cons k
    exact ⟨d, ds, hdigits, isBlank_of_isDecimal hd, ne_of_isDecimal hd (by decide)⟩
  | str s => exact ⟨'"', _, toList_quote s, by decide, by decide⟩
  | brokenStr => cases h
  | arr items => exact ⟨'[', _, toList_compact_arr items, by decide, by decide⟩
  | obj entries => exact ⟨'{', _, toList_compact_obj entries, by decide, by decide⟩

/-! ### Reading -/

theorem readValue_str (fuel : Nat) (s : String) (rest : List Char) :
    readValue (fuel + 1) ((Json.str s).compact.toList ++ rest) = some (.str s, rest) := by
  have hread := readString_quote s rest
  rw [compact, toList_quote, List.cons_append, List.append_assoc, List.singleton_append, readValue,
    skipBlanks_cons (by decide)]
  simp only [hread, String.ofList_toList]

theorem readValue_num (fuel n : Nat) {rest : List Char} (hrest : Ends rest) :
    readValue (fuel + 1) (Nat.toDigits 10 n ++ rest) =
      some (.num ⟨false, Nat.toDigits 10 n, none, none⟩, rest) := by
  have hread := readNumeral_toDigits n hrest
  obtain ⟨d, ds, hdigits, hd, -⟩ := toDigits_eq_cons n
  rw [hdigits, List.cons_append] at hread ⊢
  rw [readValue, skipBlanks_cons (isBlank_of_isDecimal hd)]
  -- a digit begins none of the other values
  have hn : d ≠ 'n' := ne_of_isDecimal hd (by decide)
  have ht : d ≠ 't' := ne_of_isDecimal hd (by decide)
  have hf : d ≠ 'f' := ne_of_isDecimal hd (by decide)
  have hquote : d ≠ '"' := ne_of_isDecimal hd (by decide)
  have harr : d ≠ '[' := ne_of_isDecimal hd (by decide)
  have hobj : d ≠ '\x7b' := ne_of_isDecimal hd (by decide)
  split <;> simp_all

/-- With this much fuel every value is read back whose text is at most half as long. -/
def ReadsValue (fuel : Nat) : Prop :=
  ∀ (j : Json) (rest : List Char), j.Spelt → Ends rest → 2 * j.compact.toList.length ≤ fuel →
    readValue fuel (j.compact.toList ++ rest) = some (j, rest)

/-- Likewise for the items of an array. -/
def ReadsItems (fuel : Nat) : Prop :=
  ∀ (x : Json) (xs : List Json) (rest : List Char), SpeltItems (x :: xs) →
    2 * (compactItems (x :: xs)).toList.length + 1 ≤ fuel →
      readItems fuel ((compactItems (x :: xs)).toList ++ ']' :: rest) = some (x :: xs, rest)

/-- Likewise for the entries of an object. -/
def ReadsEntries (fuel : Nat) : Prop :=
  ∀ (e : String × Json) (es : List (String × Json)) (rest : List Char), SpeltEntries (e :: es) →
    2 * (compactEntries (e :: es)).toList.length + 1 ≤ fuel →
      readEntries fuel ((compactEntries (e :: es)).toList ++ '}' :: rest) = some (e :: es, rest)

theorem head_compactItems {x : Json} (xs : List Json) (h : x.Spelt) :
    ∃ c cs, (compactItems (x :: xs)).toList = c :: cs ∧ isBlank c = false ∧ c ≠ ']' := by
  obtain ⟨c, cs, hc, hrest⟩ := head_compact h
  cases xs with
  | nil => exact ⟨c, cs, hc, hrest⟩
  | cons y ys => exact ⟨c, _, by rw [toList_compactItems_cons, hc, List.cons_append], hrest⟩

theorem head_compactEntries (e : String × Json) (es : List (String × Json)) :
    ∃ cs, (compactEntries (e :: es)).toList = '"' :: cs := by
  cases es with
  | nil => exact ⟨_, toList_compactEntries_singleton e⟩
  | cons e' es => exact ⟨_, toList_compactEntries_cons e e' es⟩

theorem ReadsItems.readValue_arr {fuel : Nat} (hitems : ReadsItems fuel) (items : List Json)
    (rest : List Char) (h : SpeltItems items)
    (hfuel : 2 * (Json.arr items).compact.toList.length ≤ fuel + 1) :
    readValue (fuel + 1) ((Json.arr items).compact.toList ++ rest) = some (.arr items, rest) := by
  rw [toList_compact_arr] at hfuel ⊢
  rw [List.cons_append, List.append_assoc, List.singleton_append, readValue,
    skipBlanks_cons (by decide)]
  cases items with
  | nil => simp [compactItems, skipBlanks, isBlank]
  | cons x xs =>
    rw [List.length_cons, List.length_append, List.length_singleton] at hfuel
    have hread := hitems x xs rest h (by omega)
    obtain ⟨c, cs, hc, hblank, hclose⟩ := head_compactItems xs h.1
    rw [hc, List.cons_append] at hread ⊢
    simp only [skipBlanks_cons hblank]
    -- the first item does not close the array
    split <;> simp_all

theorem ReadsEntries.readValue_obj {fuel : Nat} (hentries : ReadsEntries fuel)
    (entries : List (String × Json)) (rest : List Char) (h : SpeltEntries entries)
    (hfuel : 2 * (Json.obj entries).compact.toList.length ≤ fuel + 1) :
    readValue (fuel + 1) ((Json.obj entries).compact.toList ++ rest) =
      some (.obj entries, rest) := by
  rw [toList_compact_obj] at hfuel ⊢
  rw [List.cons_append, List.append_assoc, List.singleton_append, readValue,
    skipBlanks_cons (by decide)]
  cases entries with
  | nil => simp [compactEntries, skipBlanks, isBlank]
  | cons e es =>
    rw [List.length_cons, List.length_append, List.length_singleton] at hfuel
    have hread := hentries e es rest h (by omega)
    obtain ⟨cs, hcs⟩ := head_compactEntries e es
    rw [hcs, List.cons_append] at hread ⊢
    simp only [skipBlanks_cons (show isBlank '"' = false by decide)]
    -- nor does the first key close the object
    split <;> simp_all

theorem readsValue_succ {fuel : Nat} (hitems : ReadsItems fuel) (hentries : ReadsEntries fuel) :
    ReadsValue (fuel + 1) := by
  intro j rest hj hrest hfuel
  cases j with
  | null => simp [compact, readValue, skipBlanks, isBlank]
  | bool b => cases b <;> simp [compact, readValue, skipBlanks, isBlank]
  | num n =>
    obtain ⟨k, rfl⟩ := hj
    rw [toList_compact_num]
    exact readValue_num fuel k hrest
  | str s => exact readValue_str fuel s rest
  | brokenStr => cases hj
  | arr items => exact hitems.readValue_arr items rest hj hfuel
  | obj entries => exact hentries.readValue_obj entries rest hj hfuel

theorem readsItems_succ {fuel : Nat} (hvalue : ReadsValue fuel) (hitems : ReadsItems fuel) :
    ReadsItems (fuel + 1) := by
  intro x xs rest h hfuel
  cases xs with
  | nil =>
    rw [compactItems] at hfuel
    have hx := hvalue x (']' :: rest) h.1 (ends_cons (by simp) rest) (by omega)
    rw [compactItems, readItems, hx]
    simp only [skipBlanks_cons (show isBlank ']' = false by decide)]
  | cons y ys =>
    rw [toList_compactItems_cons, List.length_append, List.length_cons] at hfuel
    have hx := hvalue x (',' :: ((compactItems (y :: ys)).toList ++ ']' :: rest)) h.1
      (ends_cons (by simp) _) (by omega)
    have hys := hitems y ys rest h.2 (by omega)
    rw [toList_compactItems_cons, List.append_assoc, List.cons_append, readItems, hx]
    simp only [skipBlanks_cons (show isBlank ',' = false by decide), hys, Option.map_some]

theorem readsEntries_succ {fuel : Nat} (hvalue : ReadsValue fuel) (hentries : ReadsEntries fuel) :
    ReadsEntries (fuel + 1) := by
  rintro ⟨k, v⟩ es rest h hfuel
  have hcolon : isBlank ':' = false := by decide
  cases es with
  | nil =>
    rw [toList_compactEntries_singleton] at hfuel ⊢
    simp only [entryChars, List.length_cons, List.length_append] at hfuel
    have hkey := readString_quote k (':' :: (v.compact.toList ++ '}' :: rest))
    have hv := hvalue v ('}' :: rest) h.1 (ends_cons (by simp) rest) (by omega)
    simp only [entryChars, List.cons_append, List.append_assoc]
    rw [readEntries, skipBlanks_cons (by decide)]
    simp only [hkey, skipBlanks_cons hcolon, hv,
      skipBlanks_cons (show isBlank '}' = false by decide), String.ofList_toList]
  | cons e es =>
    rw [toList_compactEntries_cons] at hfuel ⊢
    simp only [entryChars, List.length_cons, List.length_append] at hfuel
    have hkey := readString_quote k
      (':' :: (v.compact.toList ++ ',' :: ((compactEntries (e :: es)).toList ++ '}' :: rest)))
    have hv := hvalue v (',' :: ((compactEntries (e :: es)).toList ++ '}' :: rest)) h.1
      (ends_cons (by simp) _) (by omega)
    have hes := hentries e es rest h.2 (by omega)
    simp only [entryChars, List.cons_append, List.append_assoc]
    rw [readEntries, skipBlanks_cons (by decide)]
    simp only [hkey, skipBlanks_cons hcolon, hv,
      skipBlanks_cons (show isBlank ',' = false by decide), hes, String.ofList_toList,
      Option.map_some]

/-- Every value, item and entry is read back, by induction on the fuel, as the readers call one
    another with one step less. -/
theorem reads (fuel : Nat) : ReadsValue fuel ∧ ReadsItems fuel ∧ ReadsEntries fuel := by
  induction fuel with
  | zero =>
    refine ⟨fun j rest hj _ hfuel => ?_, fun x xs rest _ hfuel => ?_, fun e es rest _ hfuel => ?_⟩
    · obtain ⟨c, cs, hc, -⟩ := head_compact hj
      rw [hc, List.length_cons] at hfuel
      omega
    · omega
    · omega
  | succ fuel ih =>
    obtain ⟨hvalue, hitems, hentries⟩ := ih
    exact ⟨readsValue_succ hitems hentries, readsItems_succ hvalue hitems,
      readsEntries_succ hvalue hentries⟩

/-- **A document is read back from its text.** -/
theorem parse?_compact {j : Json} (h : j.Spelt) : parse? j.compact = some j := by
  have hread := (reads (2 * j.compact.toList.length + 2)).1 j [] h ends_nil (by omega)
  rw [List.append_nil] at hread
  simp [parse?, hread, skipBlanks]

end NodeFleet.Json

/-
  Reports and analyses are read back from their documents.

  * `Json.Faithful`: a writer and a reader that agree, kept by `Faithful.ofList`.
  * `Json.Slots`: the fields of a record with what is written of each, nothing for one that is
    left out; `Slots.bind_required?` and its like read one field of it.
  * `documents_read_back`: every report and every analysis is what its text is read as.
-/
import NodeFleet.Analysis.Document
import NodeFleet.Proofs.JsonText

namespace NodeFleet

namespace Json

/-! ## Writers and readers -/

/-- A writer and a reader that agree. What is written stands for a value, so it is not null. -/
structure Faithful {α : Type} (write : α → Json) (read : Json → Option α) : Prop where
  spelt : ∀ a, (write a).Spelt
  ne_null : ∀ a, write a ≠ .null
  read_write : ∀ a, read (write a) = some a

namespace Faithful

variable {α : Type} {write : α → Json} {read : Json → Option α}

/-- What is written is read back from its text. -/
theorem read_parse? (h : Faithful write read) (a : α) :
    (parse? (write a).compact).bind read = some a := by
  rw [parse?_compact (h.spelt a), Option.bind_some, h.read_write]

theorem speltItems_map (h : Faithful write read) (items : List α) :
    SpeltItems (items.map write) := by
  induction items with
  | nil => trivial
  | cons a items ih => exact ⟨h.spelt a, ih⟩

theorem mapM_read (h : Faithful write read) (items : List α) :
    (items.map write).mapM read = some items := by
  induction items with
  | nil => rfl
  | cons a items ih => simp [h.read_write, ih]

theorem ofList (h : Faithful write read) : Faithful (Json.ofList write) (readList? read) where
  spelt := h.speltItems_map
  ne_null _ := nofun
  read_write := h.mapM_read

theorem spelt_ofOption (h : Faithful write read) (o : Option α) : (ofOption write o).Spelt := by
  cases o with
  | none => trivial
  | some a => exact h.spelt a

end Faithful

/-! ### Texts and numbers -/

theorem faithful_str : Faithful Json.str readString? where
  spelt _ := trivial
  ne_null _ := nofun
  read_write _ := rfl

theorem readNat?_ofNat {n limit : Nat} (h : n < limit) : readNat? limit (ofNat n) = some n := by
  have hvalue : Binary64.digitsValue (Nat.toDigits 10 n) = n := Nat.ofDigitChars_ten_toDigits
  simp [readNat?, ofNat, Numeral.nat?, hvalue, h]

theorem spelt_ofNat (n : Nat) : (ofNat n).Spelt := ⟨n, rfl⟩

theorem faithful_u64 : Faithful ofU64 readU64? where
  spelt n := spelt_ofNat n.toNat
  ne_null _ := nofun
  read_write n := by
    have hlt : n.toNat < twoTo 64 := n.toNat_lt
    rw [readU64?, ofU64, readNat?_ofNat hlt, Option.map_some, UInt64.ofNat_toNat]

theorem faithful_bitVec (n : Nat) : Faithful (fun w : BitVec n => ofNat w.toNat)
    fun j => (readNat? (twoTo n) j).map (BitVec.ofNat n) where
  spelt w := spelt_ofNat w.toNat
  ne_null _ := nofun
  read_write w := by
    have hlt : w.toNat < twoTo n := w.isLt
    rw [readNat?_ofNat hlt, Option.map_some, BitVec.ofNat_toNat, BitVec.setWidth_eq]

/-! ### Hexadecimal texts -/

theorem letterValue?_digitChar : ∀ d < 16, letterValue? (Nat.digitChar d) = some d := by decide

theorem digitChar_ne_underscore : ∀ d < 16, Nat.digitChar d ≠ '_' := by decide

theorem digitsIn?_append (base : Nat) (xs ys : List Char) (v : Nat) :
    digitsIn? base (xs ++ ys) v = (digitsIn? base xs v).bind (digitsIn? base ys) := by
  induction xs generalizing v with
  | nil => rfl
  | cons c cs ih =>
    rw [List.cons_append, digitsIn?, digitsIn?]
    split
    · exact ih v
    · split
      · rfl
      · split
        · exact ih _
        · rfl

theorem digitsIn?_digitChar {d : Nat} (h : d < 16) (v : Nat) :
    digitsIn? 16 [Nat.digitChar d] v = some (16 * v + d) := by
  rw [digitsIn?, if_neg (digitChar_ne_underscore d h), letterValue?_digitChar d h]
  simp only [if_pos h, digitsIn?]

theorem digitsIn?_toDigits (n : Nat) : digitsIn? 16 (Nat.toDigits 16 n) 0 = some n := by
  induction n using Nat.strongRecOn with
  | ind n ih =>
    rw [Nat.toDigits_eq_if (by decide)]
    split
    · next hsmall => simpa using digitsIn?_digitChar hsmall 0
    · next hlarge =>
      rw [digitsIn?_append, ih (n / 16) (by omega), Option.bind_some,
        digitsIn?_digitChar (by omega), Nat.div_add_mod]

theorem amountOfText?_number (n : Nat) : amountOfText? (Hex.number n) = some n := by
  have htext : (Hex.number n).toList = '0' :: 'x' :: Nat.toDigits 16 n := by simp [Hex.number]
  rw [amountOfText?, htext]
  exact digitsIn?_toDigits n

theorem faithful_word : Faithful ofWord readWord? where
  spelt _ := trivial
  ne_null _ := nofun
  read_write w := by
    have hlt : w.toNat < twoTo 256 := w.isLt
    simp [readWord?, ofWord, amountOfText?_number, hlt]

theorem toList_prefixed (bs : Bytes) : (Hex.prefixed bs).toList = '0' :: 'x' :: Hex.encode bs := by
  simp [Hex.prefixed, Hex.text]

theorem encodedSize_encode (bs : Bytes) : Hex.encodedSize (Hex.encode bs) = 2 * bs.length := by
  have hone : ∀ d < 16, (Hex.digit d).utf8Size = 1 := by decide
  induction bs with
  | nil => rfl
  | cons b bs ih =>
    have hb : b.toNat < 256 := b.toNat_lt
    rw [Hex.encode, Hex.encodedSize, Hex.encodedSize, ih, hone _ (by omega), hone _ (by omega),
      List.length_cons]
    omega

theorem decode_prefixed (bs : Bytes) : Hex.decode (Hex.prefixed bs) = .ok bs := by
  rw [Hex.decode, toList_prefixed, Hex.decodeChars, Hex.stripMark]
  simp only [encodedSize_encode, Nat.mul_mod_right, Nat.zero_ne_one, if_false,
    Hex.decodePairs_encode]

theorem decodeFixed_prefixed {n : Nat} {bs : Bytes} (h : bs.length = n) :
    Hex.decodeFixed n (Hex.prefixed bs) = .ok bs := by
  rw [Hex.decodeFixed, toList_prefixed, Hex.stripMark]
  simp only [encodedSize_encode, h, Nat.mul_mod_right, Nat.zero_ne_one, if_false, ne_eq,
    not_true_eq_false, Hex.decodePairs_encode]

theorem faithful_bytes : Faithful ofBytes readBytes? where
  spelt _ := trivial
  ne_null _ := nofun
  read_write bs := by simp [readBytes?, ofBytes, decode_prefixed, Except.toOption]

theorem faithful_address : Faithful ofAddress readAddress? where
  spelt _ := trivial
  ne_null _ := nofun
  read_write a := by
    simp [readAddress?, readFixed?, ofAddress, Address.text, decodeFixed_prefixed a.length_toBytes,
      Except.toOption, Address.ofBytes_toBytes]

theorem faithful_hash : Faithful ofHash readHash? where
  spelt _ := trivial
  ne_null _ := nofun
  read_write h := by
    simp [readHash?, readFixed?, ofHash, Hash.text, decodeFixed_prefixed h.length_toBytes,
      Except.toOption, Hash.ofBytes_toBytes]

/-! ### Names -/

theorem faithful_status : Faithful TxStatus.toJson TxStatus.ofJson? where
  spelt _ := trivial
  ne_null _ := nofun
  read_write s := by cases s <;> rfl

theorem faithful_kind : Faithful TxKind.toJson TxKind.ofJson? where
  spelt _ := trivial
  ne_null _ := nofun
  read_write k := by cases k <;> rfl

/-! ## Fields -/

/-- The entries of a record, of which those without a value are left out. -/
def present (slots : List (String × Option Json)) : List (String × Json) :=
  slots.filterMap fun s => s.2.map (s.1, ·)

theorem present_append (xs ys : List (String × Option Json)) :
    present (xs ++ ys) = present xs ++ present ys := List.filterMap_append

theorem present_cons_none (name : String) (slots : List (String × Option Json)) :
    present ((name, none) :: slots) = present slots := rfl

theorem present_cons_some (name : String) (j : Json) (slots : List (String × Option Json)) :
    present ((name, some j) :: slots) = (name, j) :: present slots := rfl

theorem lookup_present_of_notMem {name : String} {slots : List (String × Option Json)}
    (h : name ∉ slots.map (·.1)) : (present slots).lookup name = none := by
  rw [List.lookup_eq_none_iff]
  rintro ⟨k, j⟩ hmem
  obtain ⟨⟨k', o⟩, hslot, hsome⟩ := List.mem_filterMap.1 hmem
  obtain ⟨j', rfl, heq⟩ := Option.map_eq_some_iff.1 hsome
  obtain ⟨rfl, rfl⟩ := Prod.mk.inj heq
  exact bne_iff_ne.2 fun heq => h (heq ▸ List.mem_map_of_mem hslot)

/-- A field is found under its own name and under no other. -/
theorem lookup_present {slots : List (String × Option Json)} (h : (slots.map (·.1)).Nodup)
    (name : String) : (present slots).lookup name = (slots.lookup name).join := by
  induction slots with
  | nil => rfl
  | cons s slots ih =>
    obtain ⟨k, o⟩ := s
    obtain ⟨hnot, hrest⟩ := List.nodup_cons.1 h
    have hlookup := ih hrest
    by_cases hname : name = k
    · subst hname
      rw [List.lookup_cons_self]
      cases o with
      | none => exact (lookup_present_of_notMem hnot :)
      | some j => exact List.lookup_cons_self
    · have hne : (name == k) = false := beq_false_of_ne hname
      cases o with
      | none => simpa only [present_cons_none, List.lookup_cons, hne] using hlookup
      | some j => simpa only [present_cons_some, List.lookup_cons, hne] using hlookup

theorem known?_present {fields : List String} {slots : List (String × Option Json)}
    (hnodup : (slots.map (·.1)).Nodup) (hfields : ∀ s ∈ slots, s.1 ∈ fields) :
    Record.known? fields (present slots) = some (present slots) := by
  induction slots with
  | nil => rfl
  | cons s slots ih =>
    obtain ⟨k, o⟩ := s
    obtain ⟨hnot, hrest⟩ := List.nodup_cons.1 hnodup
    have hknown := ih hrest fun s hs => hfields s (List.mem_cons_of_mem _ hs)
    cases o with
    | none => exact hknown
    | some j =>
      have hk : k ∈ fields := hfields _ List.mem_cons_self
      rw [present_cons_some, Record.known?, hknown]
      simp [hk, lookup_present_of_notMem hnot]

theorem speltEntries_present {slots : List (String × Option Json)}
    (h : ∀ s ∈ slots, ∀ j ∈ s.2, j.Spelt) : SpeltEntries (present slots) := by
  induction slots with
  | nil => trivial
  | cons s slots ih =>
    have hrest := ih fun s hs => h s (List.mem_cons_of_mem _ hs)
    obtain ⟨k, o⟩ := s
    cases o with
    | none => exact hrest
    | some j => exact ⟨h _ List.mem_cons_self j rfl, hrest⟩

/-- The fields of a record with what is written of each, no two of one name. -/
structure Slots where
  entries : List (String × Option Json)
  nodup : (entries.map (·.1)).Nodup

namespace Slots

/-- The document that is written. -/
def document (s : Slots) : Json := .obj (present s.entries)

/-- The record that it is read as. -/
def record (s : Slots) : Record := ⟨present s.entries, false⟩

theorem spelt_document {s : Slots} (h : ∀ e ∈ s.entries, ∀ j ∈ e.2, j.Spelt) :
    s.document.Spelt := speltEntries_present h

variable {α β : Type} {write : α → Json} {read : Json → Option α} {name : String} {s : Slots}
  {b : β}

/-! A reader takes the fields one after another: each lemma reads one of them, `f` the rest. -/

theorem bind_document {fields : List String} {f : Record → Option β}
    (hnames : s.entries.map (·.1) = fields) (hrest : f s.record = some b) :
    (Record.ofJson? fields s.document >>= f) = some b := by
  subst hnames
  rw [document, Record.ofJson?, known?_present s.nodup fun _ => List.mem_map_of_mem]
  exact hrest

theorem bind_required? {a : α} {f : α → Option β} (h : Faithful write read)
    (hlookup : s.entries.lookup name = some (some (write a))) (hrest : f a = some b) :
    (s.record.required? name read >>= f) = some b := by
  rw [Record.required?, record, lookup_present s.nodup, hlookup, Option.join_some,
    Option.bind_some, h.read_write]
  exact hrest

theorem optional?_eq {o : Option α} (h : Faithful write read)
    (hlookup : (s.entries.lookup name).join = o.map write ∨
      (s.entries.lookup name).join = some (ofOption write o)) :
    s.record.optional? name read = some o := by
  rw [Record.optional?, record, lookup_present s.nodup]
  cases o with
  | none => rcases hlookup with h | h <;> rw [h] <;> rfl
  | some a =>
    have hnull := h.ne_null a
    have hwritten : (s.entries.lookup name).join = some (write a) := hlookup.elim id id
    simp [hwritten, h.read_write]

/-- A field that is null where nothing is known. -/
theorem bind_nullable? {o : Option α} {f : Option α → Option β} (h : Faithful write read)
    (hlookup : s.entries.lookup name = some (some (ofOption write o))) (hrest : f o = some b) :
    (s.record.optional? name read >>= f) = some b := by
  rw [optional?_eq h (.inr (congrArg Option.join hlookup))]
  exact hrest

/-- A field that is left out where nothing is known. -/
theorem bind_known? {o : Option α} {f : Option α → Option β} (h : Faithful write read)
    (hlookup : s.entries.lookup name = some (o.map write)) (hrest : f o = some b) :
    (s.record.optional? name read >>= f) = some b := by
  rw [optional?_eq h (.inl (congrArg Option.join hlookup))]
  exact hrest

/-- A field that is left out where it has its default. -/
theorem bind_defaulted? {a default : α} {isDefault : Bool} {f : α → Option β}
    (h : Faithful write read) (hdefault : isDefault = true → a = default)
    (hlookup : s.entries.lookup name = some (if isDefault then none else some (write a)))
    (hrest : f a = some b) : (s.record.defaulted? name default read >>= f) = some b := by
  rw [Record.defaulted?, record, lookup_present s.nodup, hlookup]
  cases isDefault with
  | true => exact hdefault rfl ▸ hrest
  | false =>
    rw [if_neg Bool.false_ne_true, Option.join_some]
    simp [h.read_write, hrest]

end Slots

end Json

/-! ## Records -/

open Json

/-! ### Reports -/

def ChainTransaction.slots (tx : ChainTransaction) : Slots where
  entries := [("hash", some (ofHash tx.hash)), ("from", some (ofAddress tx.sender)),
    ("to", some (ofOption ofAddress tx.to_)), ("nonce", some (ofU64 tx.nonce)),
    ("value", some (ofWord tx.value)), ("gas_limit", some (ofU64 tx.gasLimit)),
    ("gas_price", some (ofNat tx.gasPrice.toNat)), ("input", some (ofBytes tx.input)),
    ("block_number", some (ofOption ofU64 tx.blockNumber))]
  nodup := (by decide : fields.Nodup)

theorem ChainTransaction.faithful : Faithful ChainTransaction.toJson ChainTransaction.ofJson? where
  spelt tx := Slots.spelt_document (s := tx.slots) (by
    simp [slots, faithful_hash.spelt, faithful_address.spelt, faithful_address.spelt_ofOption,
      faithful_u64.spelt, faithful_u64.spelt_ofOption, faithful_word.spelt, spelt_ofNat,
      faithful_bytes.spelt])
  ne_null _ := nofun
  read_write tx := by
    unfold ofJson?
    refine Slots.bind_document (s := tx.slots) rfl ?_
    refine Slots.bind_required? faithful_hash rfl ?_
    refine Slots.bind_required? faithful_address rfl ?_
    refine Slots.bind_nullable? faithful_address rfl ?_
    refine Slots.bind_required? faithful_u64 rfl ?_
    refine Slots.bind_required? faithful_word rfl ?_
    refine Slots.bind_required? faithful_u64 rfl ?_
    refine Slots.bind_required? (faithful_bitVec 128) rfl ?_
    refine Slots.bind_required? faithful_bytes rfl ?_
    exact Slots.bind_nullable? faithful_u64 rfl rfl

def LogEntry.slots (e : LogEntry) : Slots where
  entries := [("address", some (ofAddress e.address)), ("topics", some (.ofList ofHash e.topics)),
    ("data", some (ofBytes e.data))]
  nodup := (by decide : fields.Nodup)

theorem LogEntry.faithful : Faithful LogEntry.toJson LogEntry.ofJson? where
  spelt e := Slots.spelt_document (s := e.slots) (by
    simp [slots, faithful_address.spelt, faithful_hash.ofList.spelt, faithful_bytes.spelt])
  ne_null _ := nofun
  read_write e := by
    unfold ofJson?
    refine Slots.bind_document (s := e.slots) rfl ?_
    refine Slots.bind_required? faithful_address rfl ?_
    refine Slots.bind_required? faithful_hash.ofList rfl ?_
    exact Slots.bind_required? faithful_bytes rfl rfl

theorem ReceiptStatus.faithful : Faithful ReceiptStatus.toJson ReceiptStatus.ofJson? where
  spelt s := by
    cases s with
    | success => trivial
    | failure => trivial
    | postState root => exact ⟨faithful_hash.spelt root, trivial⟩
  ne_null s := by cases s <;> nofun
  read_write s := by
    cases s with
    | success => rfl
    | failure => rfl
    | postState root => rw [toJson, ofJson?, faithful_hash.read_write, Option.map_some]

def Receipt.slots (r : Receipt) : Slots where
  entries := [("status", some r.status.toJson), ("gas_used", some (ofU64 r.gasUsed)),
    ("logs", some (.ofList LogEntry.toJson r.logs)),
    ("block_number", some (ofOption ofU64 r.blockNumber))]
  nodup := (by decide : fields.Nodup)

theorem Receipt.faithful : Faithful Receipt.toJson Receipt.ofJson? where
  spelt r := Slots.spelt_document (s := r.slots) (by
    simp [slots, ReceiptStatus.faithful.spelt, faithful_u64.spelt,
      LogEntry.faithful.ofList.spelt, faithful_u64.spelt_ofOption])
  ne_null _ := nofun
  read_write r := by
    unfold ofJson?
    refine Slots.bind_document (s := r.slots) rfl ?_
    refine Slots.bind_required? ReceiptStatus.faithful rfl ?_
    refine Slots.bind_required? faithful_u64 rfl ?_
    refine Slots.bind_required? LogEntry.faithful.ofList rfl ?_
    exact Slots.bind_nullable? faithful_u64 rfl rfl

def BlockHeader.slots (h : BlockHeader) : Slots where
  entries := [("number", some (ofU64 h.number)), ("hash", some (ofHash h.hash)),
    ("parent_hash", some (ofHash h.parentHash)), ("timestamp", some (ofU64 h.timestamp)),
    ("gas_limit", some (ofU64 h.gasLimit)), ("gas_used", some (ofU64 h.gasUsed)),
    ("base_fee_per_gas", some (ofOption ofU64 h.baseFee))]
  nodup := (by decide : fields.Nodup)

theorem BlockHeader.faithful : Faithful BlockHeader.toJson BlockHeader.ofJson? where
  spelt h := Slots.spelt_document (s := h.slots) (by
    simp [slots, faithful_u64.spelt, faithful_hash.spelt, faithful_u64.spelt_ofOption])
  ne_null _ := nofun
  read_write h := by
    unfold ofJson?
    refine Slots.bind_document (s := h.slots) rfl ?_
    refine Slots.bind_required? faithful_u64 rfl ?_
    refine Slots.bind_required? faithful_hash rfl ?_
    refine Slots.bind_required? faithful_hash rfl ?_
    refine Slots.bind_required? faithful_u64 rfl ?_
    refine Slots.bind_required? faithful_u64 rfl ?_
    refine Slots.bind_required? faithful_u64 rfl ?_
    exact Slots.bind_nullable? faithful_u64 rfl rfl

/-! ### Analyses -/

def NamedAddress.slots (a : NamedAddress) : Slots where
  entries := [("address", some (ofAddress a.address)), ("name", some (.str a.name))]
  nodup := (by decide : ["address", "name"].Nodup)

theorem NamedAddress.faithful : Faithful NamedAddress.toJson NamedAddress.ofJson? where
  spelt a := Slots.spelt_document (s := a.slots) (by
    simp [slots, faithful_address.spelt, faithful_str.spelt])
  ne_null _ := nofun
  read_write a := by
    unfold ofJson?
    refine Slots.bind_document (s := a.slots) rfl ?_
    refine Slots.bind_required? faithful_address rfl ?_
    exact Slots.bind_required? faithful_str rfl rfl

def DecodedParam.slots (p : DecodedParam) : Slots where
  entries := [("name", some (.str p.name)), ("type", some (.str p.type)),
    ("value", some (.str p.value))]
  nodup := (by decide : ["name", "type", "value"].Nodup)

theorem DecodedParam.faithful : Faithful DecodedParam.toJson DecodedParam.ofJson? where
  spelt p := Slots.spelt_document (s := p.slots) (by simp [slots, faithful_str.spelt])
  ne_null _ := nofun
  read_write p := by
    unfold ofJson?
    refine Slots.bind_document (s := p.slots) rfl ?_
    refine Slots.bind_required? faithful_str rfl ?_
    refine Slots.bind_required? faithful_str rfl ?_
    exact Slots.bind_required? faithful_str rfl rfl

def DecodedTopic.slots (t : DecodedTopic) : Slots where
  entries := [("name", some (.str t.name)), ("value", some (.str t.value))]
  nodup := (by decide : ["name", "value"].Nodup)

theorem DecodedTopic.faithful : Faithful DecodedTopic.toJson DecodedTopic.ofJson? where
  spelt t := Slots.spelt_document (s := t.slots) (by simp [slots, faithful_str.spelt])
  ne_null _ := nofun
  read_write t := by
    unfold ofJson?
    refine Slots.bind_document (s := t.slots) rfl ?_
    refine Slots.bind_required? faithful_str rfl ?_
    exact Slots.bind_required? faithful_str rfl rfl

def DecodedEvent.slots (e : DecodedEvent) : Slots where
  entries := [("name", some (.str e.name)), ("topics", some (.ofList DecodedTopic.toJson e.topics)),
    ("data", some (.ofList DecodedParam.toJson e.data))]
  nodup := (by decide : ["name", "topics", "data"].Nodup)

theorem DecodedEvent.faithful : Faithful DecodedEvent.toJson DecodedEvent.ofJson? where
  spelt e := Slots.spelt_document (s := e.slots) (by
    simp [slots, faithful_str.spelt, DecodedTopic.faithful.ofList.spelt,
      DecodedParam.faithful.ofList.spelt])
  ne_null _ := nofun
  read_write e := by
    unfold ofJson?
    refine Slots.bind_document (s := e.slots) rfl ?_
    refine Slots.bind_required? faithful_str rfl ?_
    refine Slots.bind_required? DecodedTopic.faithful.ofList rfl ?_
    exact Slots.bind_required? DecodedParam.faithful.ofList rfl rfl

def WrappedCall.slots (c : WrappedCall) : Slots where
  entries := [("contract", some c.contract.toJson), ("method", some (.str c.method)),
    ("params", some (.ofList DecodedParam.toJson c.params))]
  nodup := (by decide : ["contract", "method", "params"].Nodup)

theorem WrappedCall.faithful : Faithful WrappedCall.toJson WrappedCall.ofJson? where
  spelt c := Slots.spelt_document (s := c.slots) (by
    simp [slots, NamedAddress.faithful.spelt, faithful_str.spelt,
      DecodedParam.faithful.ofList.spelt])
  ne_null _ := nofun
  read_write c := by
    unfold ofJson?
    refine Slots.bind_document (s := c.slots) rfl ?_
    refine Slots.bind_required? NamedAddress.faithful rfl ?_
    refine Slots.bind_required? faithful_str rfl ?_
    exact Slots.bind_required? DecodedParam.faithful.ofList rfl rfl

namespace Analysis

def slots (a : Analysis) : Slots where
  entries := [("hash", some (ofHash a.hash)), ("status", some a.status.toJson),
    ("type", a.kind.map TxKind.toJson), ("from", a.sender.map NamedAddress.toJson),
    ("to", a.to_.map NamedAddress.toJson), ("value", a.value.map .str),
    ("nonce", a.nonce.map ofU64), ("gas_price", a.gasPrice.map .str),
    ("gas_limit", a.gasLimit.map ofU64), ("contract", a.contract.map NamedAddress.toJson),
    ("method", a.method.map .str),
    ("params", if a.params.isEmpty then none else some (.ofList DecodedParam.toJson a.params)),
    ("logs", if a.events.isEmpty then none else some (.ofList DecodedEvent.toJson a.events)),
    ("wrapped_call", a.wrapped.map WrappedCall.toJson),
    ("error", if a.problems.isEmpty then none else some (.str a.problems))]
  nodup := (by decide : fields.Nodup)

theorem known_eq {α : Type} (name : String) (write : α → Json) (o : Option α) :
    known name write o = present [(name, o.map write)] := by cases o <;> rfl

theorem filled_eq {α : Type} (name : String) (write : α → Json) (items : List α) :
    filled name write items =
      present [(name, if items.isEmpty then none else some (.ofList write items))] := by
  cases items <;> rfl

theorem toJson_eq (a : Analysis) : a.toJson = a.slots.document := by
  have hproblems : (if a.problems.isEmpty then [] else [("error", Json.str a.problems)]) =
      present [("error", if a.problems.isEmpty then none else some (.str a.problems))] := by
    cases a.problems.isEmpty <;> rfl
  have hhead : [("hash", ofHash a.hash), ("status", a.status.toJson)] =
      present [("hash", some (ofHash a.hash)), ("status", some a.status.toJson)] := rfl
  rw [toJson, hhead, hproblems]
  simp only [known_eq, filled_eq, ← present_append]
  rfl

theorem faithful : Faithful toJson ofJson? where
  spelt a := a.toJson_eq ▸ Slots.spelt_document (s := a.slots) (by
    simp [slots, faithful_hash.spelt, faithful_status.spelt, faithful_kind.spelt,
      NamedAddress.faithful.spelt, faithful_str.spelt, faithful_u64.spelt,
      DecodedParam.faithful.ofList.spelt, DecodedEvent.faithful.ofList.spelt,
      WrappedCall.faithful.spelt])
  ne_null _ := nofun
  read_write a := by
    rw [toJson_eq]
    unfold ofJson?
    refine Slots.bind_document (s := a.slots) rfl ?_
    refine Slots.bind_required? faithful_hash rfl ?_
    refine Slots.bind_required? faithful_status rfl ?_
    refine Slots.bind_known? faithful_kind rfl ?_
    refine Slots.bind_known? NamedAddress.faithful rfl ?_
    refine Slots.bind_known? NamedAddress.faithful rfl ?_
    refine Slots.bind_known? faithful_str rfl ?_
    refine Slots.bind_known? faithful_u64 rfl ?_
    refine Slots.bind_known? faithful_str rfl ?_
    refine Slots.bind_known? faithful_u64 rfl ?_
    refine Slots.bind_known? NamedAddress.faithful rfl ?_
    refine Slots.bind_known? faithful_str rfl ?_
    refine Slots.bind_defaulted? DecodedParam.faithful.ofList List.isEmpty_iff.1 rfl ?_
    refine Slots.bind_defaulted? DecodedEvent.faithful.ofList List.isEmpty_iff.1 rfl ?_
    refine Slots.bind_known? WrappedCall.faithful rfl ?_
    exact Slots.bind_defaulted? faithful_str String.isEmpty_iff.1 rfl rfl

end Analysis

/-- **Every report and every analysis is read back from its text**, with all that it holds and
    all that it leaves out. -/
theorem documents_read_back :
    (∀ a : Analysis, (parse? a.toJson.compact).bind Analysis.ofJson? = some a) ∧
    (∀ e : DecodedEvent, (parse? e.toJson.compact).bind DecodedEvent.ofJson? = some e) ∧
    (∀ c : WrappedCall, (parse? c.toJson.compact).bind WrappedCall.ofJson? = some c) ∧
    (∀ a : NamedAddress, (parse? a.toJson.compact).bind NamedAddress.ofJson? = some a) ∧
    (∀ tx : ChainTransaction,
      (parse? tx.toJson.compact).bind ChainTransaction.ofJson? = some tx) ∧
    (∀ e : LogEntry, (parse? e.toJson.compact).bind LogEntry.ofJson? = some e) ∧
    (∀ s : ReceiptStatus, (parse? s.toJson.compact).bind ReceiptStatus.ofJson? = some s) ∧
    (∀ r : Receipt, (parse? r.toJson.compact).bind Receipt.ofJson? = some r) ∧
    ∀ h : BlockHeader, (parse? h.toJson.compact).bind BlockHeader.ofJson? = some h :=
  ⟨Analysis.faithful.read_parse?, DecodedEvent.faithful.read_parse?,
    WrappedCall.faithful.read_parse?, NamedAddress.faithful.read_parse?,
    ChainTransaction.faithful.read_parse?, LogEntry.faithful.read_parse?,
    ReceiptStatus.faithful.read_parse?, Receipt.faithful.read_parse?,
    BlockHeader.faithful.read_parse?⟩

end NodeFleet

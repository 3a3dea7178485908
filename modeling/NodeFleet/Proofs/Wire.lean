/-
  What is signed and what is sent of a transaction.

  * `UnsignedTransaction.items_inj`: the bytes of a transaction's fields and a few more items tell
    the transaction and the items.
  * `UnsignedTransaction.signingBytes_inj`, `signing_binds`: what is signed tells the transaction and
    the chain, and so a signature counts for no other transaction and no other chain as long as
    digests do not collide.
  * `SignedTransaction.encoded_inj`, `SignedTransaction.decode?_encoded`, `wire_form_keeps_all`: what
    is sent tells the transaction, the chain and the signature, and they are read back from it.
-/
import NodeFleet.Proofs.Rlp
import NodeFleet.Transaction.Signer

namespace NodeFleet

open Rlp

/-! ## The fields of a transaction -/

namespace UnsignedTransaction

/-- The bytes of the destination, none for a contract that is created. -/
def destination (to_ : Option Address) : Bytes :=
  match to_ with
  | some a => a.toBytes
  | none => []

/-- The fields of bounded size: all but the data. -/
def shortFields (tx : UnsignedTransaction) : List Bytes :=
  [minBytes tx.nonce.toNat, minBytes tx.gasPrice.toNat, minBytes tx.gasLimit.toNat,
    destination tx.to_, minBytes tx.value.toNat]

theorem items_eq (tx : UnsignedTransaction) :
    tx.items = tx.shortFields.map .bytes ++ [.bytes tx.data] := rfl

theorem length_destination_le (to_ : Option Address) : (destination to_).length ≤ 20 := by
  cases to_ with
  | none => exact Nat.zero_le _
  | some a => exact Nat.le_of_eq a.length_toBytes

theorem length_le_of_mem_shortFields {tx : UnsignedTransaction} {x : Bytes}
    (h : x ∈ tx.shortFields) : x.length ≤ 32 := by
  have hnonce := (length_minBytes_le_iff (n := 8)).2 tx.nonce.toNat_lt
  have hprice := (length_minBytes_le_iff (n := 16)).2 tx.gasPrice.isLt
  have hlimit := (length_minBytes_le_iff (n := 8)).2 tx.gasLimit.toNat_lt
  have hvalue := (length_minBytes_le_iff (n := 32)).2 tx.value.isLt
  have hto := length_destination_le tx.to_
  simp only [shortFields, List.mem_cons, List.not_mem_nil, or_false] at h
  rcases h with rfl | rfl | rfl | rfl | rfl <;> omega

theorem destination_inj {a b : Option Address} (h : destination a = destination b) : a = b := by
  have hlength := congrArg List.length h
  cases a with
  | none =>
    cases b with
    | none => rfl
    | some b =>
      rw [destination, destination, b.length_toBytes] at hlength
      cases hlength
  | some a =>
    cases b with
    | none =>
      rw [destination, destination, a.length_toBytes] at hlength
      cases hlength
    | some b => rw [← a.ofBytes_toBytes, ← b.ofBytes_toBytes, show a.toBytes = b.toBytes from h]

/-- A transaction is told by its short fields and its data. -/
theorem eq_of_fields {u u' : UnsignedTransaction} (hshort : u.shortFields = u'.shortFields)
    (hdata : u.data = u'.data) : u = u' := by
  obtain ⟨nonce, to_, value, gasLimit, gasPrice, data⟩ := u
  obtain ⟨nonce', to', value', gasLimit', gasPrice', data'⟩ := u'
  simp only [shortFields, List.cons.injEq, and_true] at hshort
  obtain ⟨hnonce, hprice, hlimit, hto, hvalue⟩ := hshort
  obtain rfl : nonce = nonce' := UInt64.toNat_inj.1 (minBytes_inj hnonce)
  obtain rfl : gasPrice = gasPrice' := BitVec.eq_of_toNat_eq (minBytes_inj hprice)
  obtain rfl : gasLimit = gasLimit' := UInt64.toNat_inj.1 (minBytes_inj hlimit)
  obtain rfl : value = value' := BitVec.eq_of_toNat_eq (minBytes_inj hvalue)
  obtain rfl := destination_inj hto
  obtain rfl : data = data' := hdata
  rfl

/-- **The bytes of the fields and of a few items behind them tell both**, whatever the size of
    the data. -/
theorem items_inj {u u' : UnsignedTransaction} {t t' : List Item}
    (ht : (encodeItems t).length < 128) (ht' : (encodeItems t').length < 128)
    (h : (Item.list (u.items ++ t)).encode = (Item.list (u'.items ++ t')).encode) :
    u = u' ∧ encodeItems t = encodeItems t' := by
  have hpayload := encode_list_inj h
  rw [encodeItems_append, encodeItems_append, items_eq, items_eq, encodeItems_append,
    encodeItems_append, List.append_assoc, List.append_assoc] at hpayload
  have hbound : ∀ tx : UnsignedTransaction, ∀ x ∈ tx.shortFields, x.length ≤ 128 :=
    fun tx x hx => Nat.le_trans (length_le_of_mem_shortFields hx) (by decide)
  obtain ⟨hshort, hrest⟩ := encodeItems_append_inj u.shortFields u'.shortFields
    rfl (hbound u) (hbound u') hpayload
  simp only [encodeItems, Item.encode, List.append_nil] at hrest
  obtain ⟨hdata, htail⟩ := encodeBytes_append_inj_of_short ht ht' hrest
  exact ⟨eq_of_fields hshort hdata, htail⟩

end UnsignedTransaction

/-! ## What is signed -/

namespace UnsignedTransaction

/-- The items that bind a signature to a chain. -/
def chainItems : Option UInt64 → List Bytes
  | none => []
  | some id => [minBytes id.toNat, minBytes 0, minBytes 0]

theorem signingBytes_eq (tx : UnsignedTransaction) (chainId : Option UInt64) :
    tx.signingBytes chainId =
      (Item.list (tx.items ++ (chainItems chainId).map .bytes)).encode := by
  cases chainId with
  | none => rw [chainItems, List.map_nil, List.append_nil, signingBytes]
  | some id => rfl

theorem length_le_of_mem_chainItems {chainId : Option UInt64} {x : Bytes}
    (h : x ∈ chainItems chainId) : x.length ≤ 8 := by
  cases chainId with
  | none => cases h
  | some id =>
    have hid := (length_minBytes_le_iff (n := 8)).2 id.toNat_lt
    have hzero : (minBytes 0).length = 0 := rfl
    simp only [chainItems, List.mem_cons, List.not_mem_nil, or_false] at h
    rcases h with rfl | rfl | rfl <;> omega

theorem length_chainItems_lt (chainId : Option UInt64) :
    (encodeItems ((chainItems chainId).map .bytes)).length < 128 := by
  have hle := length_encodeItems_le (n := 8) (by decide) fun x =>
    @length_le_of_mem_chainItems chainId x
  have hthree : (chainItems chainId).length ≤ 3 := by
    cases chainId with
    | none => exact Nat.zero_le _
    | some id => exact Nat.le_refl _
  omega

theorem chainItems_inj {c c' : Option UInt64}
    (h : encodeItems ((chainItems c).map .bytes) = encodeItems ((chainItems c').map .bytes)) :
    c = c' := by
  have hbound : ∀ c : Option UInt64, ∀ x ∈ chainItems c, x.length ≤ 128 :=
    fun c x hx => Nat.le_trans (length_le_of_mem_chainItems hx) (by decide)
  have hsome : ∀ id : UInt64, encodeItems ((chainItems (some id)).map .bytes) ≠ [] := by
    intro id hnil
    have hpos := (Item.bytes (minBytes id.toNat)).length_encode_pos
    rw [(List.append_eq_nil_iff.1 hnil).1] at hpos
    exact Nat.lt_irrefl _ hpos
  cases c with
  | none =>
    cases c' with
    | none => rfl
    | some id' => exact absurd h.symm (hsome id')
  | some id =>
    cases c' with
    | none => exact absurd h (hsome id)
    | some id' =>
      have hitems := (encodeItems_append_inj (s := []) (t := []) (chainItems (some id))
        (chainItems (some id')) rfl (hbound _) (hbound _) (by rw [h])).1
      rw [UInt64.toNat_inj.1 (minBytes_inj (List.cons.inj hitems).1)]

/-- **What is signed tells the transaction and the chain**, or that there is none. -/
theorem signingBytes_inj {u u' : UnsignedTransaction} {c c' : Option UInt64} :
    u.signingBytes c = u'.signingBytes c' ↔ u = u' ∧ c = c' := by
  constructor
  · intro h
    rw [signingBytes_eq, signingBytes_eq] at h
    obtain ⟨hu, hc⟩ := items_inj (length_chainItems_lt c) (length_chainItems_lt c') h
    exact ⟨hu, chainItems_inj hc⟩
  · rintro ⟨rfl, rfl⟩
    rfl

end UnsignedTransaction

/-- Two byte strings with one digest. -/
def Hash.Collision (x y : Bytes) : Prop := x ≠ y ∧ Hash.ofKeccak x = Hash.ofKeccak y

/-- A signature counts for every transaction and chain that have the digest it was made for. -/
def SignedTransaction.CountsFor (tx : SignedTransaction) (u : UnsignedTransaction)
    (chainId : Option UInt64) : Prop :=
  u.signingHash chainId = tx.unsigned.signingHash tx.chainId

/-- **No signature can be replayed.** Of two transactions, or two chains, other bytes are signed. So
    the signature that a key makes of the digest of a transaction counts for no other transaction,
    and for none on another chain, unless two byte strings with one digest were found. -/
theorem signing_binds (key : PrivateKey) (u u' : UnsignedTransaction) (c c' : Option UInt64) :
    (u.signingBytes c = u'.signingBytes c' ↔ u = u' ∧ c = c') ∧
      let tx := (LocalKey.mk key c).sign u
      tx.signature = key.sign (.ofKeccak (u.signingBytes c)) ∧
        (tx.CountsFor u' c' ↔
          (u' = u ∧ c' = c) ∨ Hash.Collision (u'.signingBytes c') (u.signingBytes c)) := by
  refine ⟨UnsignedTransaction.signingBytes_inj, ?_⟩
  -- unfolded by name: a signature is a record, which `rfl` would compare by computing it
  simp only [LocalKey.sign, SignedTransaction.CountsFor, UnsignedTransaction.signingHash, true_and]
  rw [← UnsignedTransaction.signingBytes_inj]
  by_cases hbytes : u'.signingBytes c' = u.signingBytes c
  · exact iff_of_true (congrArg _ hbytes) (Or.inl hbytes)
  · constructor
    · exact fun hdigest => Or.inr ⟨hbytes, hdigest⟩
    · rintro (hsame | ⟨-, hdigest⟩)
      · exact absurd hsame hbytes
      · exact hdigest

/-! ## What is sent -/

namespace SignedTransaction

variable {tx : SignedTransaction}

/-- What stands behind the fields: chain and parity in one number, and the signature. -/
def sealItems (tx : SignedTransaction) : List Bytes :=
  [minBytes (recovery tx.chainId tx.signature.yParity), minBytes tx.signature.r.toNat,
    minBytes tx.signature.s.toNat]

theorem encoded_eq (tx : SignedTransaction) :
    tx.encoded = (Item.list (tx.unsigned.items ++ tx.sealItems.map .bytes)).encode := rfl

/-- The largest number is that of the last chain and the odd parity. -/
theorem recovery_le (chainId : Option UInt64) (yParity : Bool) :
    recovery chainId yParity ≤ 2 * (twoTo 64 - 1) + 36 := by
  have hparity := yParity.toNat_le
  cases chainId with
  | none =>
    have : 28 ≤ 2 * (twoTo 64 - 1) + 36 := by decide
    rw [recovery]
    omega
  | some id =>
    have hid : id.toNat < twoTo 64 := id.toNat_lt
    rw [recovery]
    omega

theorem binding?_recovery (chainId : Option UInt64) (yParity : Bool) :
    binding? (recovery chainId yParity) = some (chainId, yParity) := by
  have hle := recovery_le chainId yParity
  cases chainId with
  | none => cases yParity <;> rfl
  | some id =>
    have hparity := yParity.toNat_le
    have hlimit : twoTo 65 = 2 * twoTo 64 := by rw [twoTo_succ, Nat.mul_comm]
    have hpos := twoTo_pos 64
    rw [recovery] at hle ⊢
    rw [binding?, if_neg (by omega), if_pos (by omega)]
    have hid : (35 + 2 * id.toNat + yParity.toNat - 35) / 2 = id.toNat := by omega
    have hodd : (35 + 2 * id.toNat + yParity.toNat - 35) % 2 = yParity.toNat := by omega
    rw [hid, hodd, UInt64.ofNat_toNat]
    cases yParity <;> rfl

theorem recovery_inj {c c' : Option UInt64} {y y' : Bool} :
    recovery c y = recovery c' y' ↔ c = c' ∧ y = y' := by
  constructor
  · intro h
    have hbinding := binding?_recovery c y
    rw [h, binding?_recovery, Option.some.injEq, Prod.mk.injEq] at hbinding
    exact ⟨hbinding.1.symm, hbinding.2.symm⟩
  · rintro ⟨rfl, rfl⟩
    rfl

/-! ### Bytes -/

theorem length_le_of_mem_sealItems {x : Bytes} (h : x ∈ tx.sealItems) : x.length ≤ 32 := by
  have hv : recovery tx.chainId tx.signature.yParity < twoTo (8 * 9) :=
    Nat.lt_of_le_of_lt (recovery_le _ _) (by decide)
  have hrecovery := length_minBytes_le_iff.2 hv
  have hr := (length_minBytes_le_iff (n := 32)).2 tx.signature.r.isLt
  have hs := (length_minBytes_le_iff (n := 32)).2 tx.signature.s.isLt
  simp only [sealItems, List.mem_cons, List.not_mem_nil, or_false] at h
  rcases h with rfl | rfl | rfl <;> omega

theorem length_sealItems_le (tx : SignedTransaction) :
    (encodeItems (tx.sealItems.map .bytes)).length ≤ 99 :=
  length_encodeItems_le (n := 32) (by decide) fun _ => length_le_of_mem_sealItems

/-- **What is sent tells the transaction, the chain and the signature**, whatever the size of the
    data. -/
theorem encoded_inj {tx tx' : SignedTransaction} : tx.encoded = tx'.encoded ↔ tx = tx' := by
  constructor
  · intro h
    rw [encoded_eq, encoded_eq] at h
    obtain ⟨hu, hseal⟩ := UnsignedTransaction.items_inj
      (Nat.lt_of_le_of_lt tx.length_sealItems_le (by decide))
      (Nat.lt_of_le_of_lt tx'.length_sealItems_le (by decide)) h
    have hbound : ∀ tx : SignedTransaction, ∀ x ∈ tx.sealItems, x.length ≤ 128 :=
      fun tx x hx => Nat.le_trans (length_le_of_mem_sealItems hx) (by decide)
    have hitems := (encodeItems_append_inj (s := []) (t := []) tx.sealItems tx'.sealItems rfl
      (hbound tx) (hbound tx') (by rw [hseal])).1
    obtain ⟨u, c, r, s, y⟩ := tx
    obtain ⟨u', c', r', s', y'⟩ := tx'
    simp only [sealItems, List.cons.injEq, and_true] at hitems
    obtain ⟨hv, hr, hs⟩ := hitems
    obtain rfl : u = u' := hu
    obtain ⟨rfl, rfl⟩ := recovery_inj.1 (minBytes_inj hv)
    obtain rfl : r = r' := BitVec.eq_of_toNat_eq (minBytes_inj hr)
    obtain rfl : s = s' := BitVec.eq_of_toNat_eq (minBytes_inj hs)
    rfl
  · rintro rfl
    rfl

/-! ### Reading -/

@[simp] theorem below?_ofNat {limit n : Nat} (h : n < limit) :
    below? limit (.ofNat n) = some n := by
  rw [below?, Item.nat?_ofNat, Option.filter_some, if_pos (decide_eq_true h)]

theorem destination?_destination (to_ : Option Address) :
    destination? (.bytes (UnsignedTransaction.destination to_)) = some to_ := by
  cases to_ with
  | none => rfl
  | some a =>
    have hlength := a.length_toBytes
    cases hbytes : a.toBytes with
    | nil =>
      rw [hbytes] at hlength
      cases hlength
    | cons b bs =>
      rw [UnsignedTransaction.destination, hbytes, destination?, if_pos (hbytes ▸ hlength),
        ← hbytes, a.ofBytes_toBytes]
      simp

/-- The items of a transaction are read back. -/
theorem ofItems?_items (tx : SignedTransaction) :
    ofItems? (tx.unsigned.items ++ tx.sealItems.map .bytes) = some tx := by
  obtain ⟨⟨nonce, to_, value, gasLimit, gasPrice, data⟩, c, r, s, y⟩ := tx
  have hto := destination?_destination to_
  have hnonce : nonce.toNat < twoTo 64 := nonce.toNat_lt
  have hprice : gasPrice.toNat < twoTo 128 := gasPrice.isLt
  have hlimit : gasLimit.toNat < twoTo 64 := gasLimit.toNat_lt
  have hvalue : value.toNat < twoTo 256 := value.isLt
  have hr : r.toNat < twoTo 256 := r.isLt
  have hs : s.toNat < twoTo 256 := s.isLt
  change ofItems? [.ofNat nonce.toNat, .ofNat gasPrice.toNat, .ofNat gasLimit.toNat,
    .bytes (UnsignedTransaction.destination to_), .ofNat value.toNat, .bytes data,
    .ofNat (recovery c y), .ofNat r.toNat, .ofNat s.toNat] = _
  simp [ofItems?, below?_ofNat, hto, hnonce, hprice, hlimit, hvalue, hr, hs, binding?_recovery]

/-- The wire form of data that fits memory fits sizes of eight bytes. -/
theorem length_encoded_lt (h : tx.unsigned.data.length < twoTo 63) :
    tx.encoded.length < twoTo 64 := by
  have hshort := length_encodeItems_le (n := 32) (by decide) fun x =>
    @UnsignedTransaction.length_le_of_mem_shortFields tx.unsigned x
  have hseal := tx.length_sealItems_le
  have hdata := length_encodeBytes_le tx.unsigned.data
  have hsize := length_sizeBytes_le (Nat.lt_trans h (show twoTo 63 < twoTo 64 by decide))
  have htwice : twoTo 64 = twoTo 63 * 2 := twoTo_succ 63
  have hlarge : 1000 ≤ twoTo 63 := by decide
  have hfive : tx.unsigned.shortFields.length = 5 := rfl
  have hpayload : (encodeItems (tx.unsigned.items ++ tx.sealItems.map .bytes)).length + 9 <
      twoTo 64 := by
    rw [encodeItems_append, UnsignedTransaction.items_eq, encodeItems_append, List.length_append,
      List.length_append, encodeItems, Item.encode, encodeItems, List.append_nil]
    omega
  have hheader := length_sizeBytes_le (Nat.lt_of_le_of_lt (Nat.le_add_right _ 9) hpayload)
  rw [encoded_eq, Item.encode, List.length_append, length_header]
  omega

/-- **What is sent is read back**, if the data fits memory. -/
theorem decode?_encoded (h : tx.unsigned.data.length < twoTo 63) :
    decode? tx.encoded = some tx := by
  have hread : Item.decode? (tx.encoded ++ []) =
      some (.list (tx.unsigned.items ++ tx.sealItems.map .bytes), []) :=
    Item.decode?_encode (length_encoded_lt h) []
  rw [List.append_nil] at hread
  rw [decode?, hread]
  exact tx.ofItems?_items

end SignedTransaction

/-- **The wire form loses nothing.** The bytes that are sent tell the transaction, the chain and the
    signature, and reading them gives all of these back. The number for chain and parity has room
    for every chain, and no two chains or parities share one. The hash is the digest of the bytes.
    A byte string in memory is shorter than `twoTo 63`. -/
theorem wire_form_keeps_all (tx : SignedTransaction) :
    (tx.unsigned.data.length < twoTo 63 → SignedTransaction.decode? tx.encoded = some tx) ∧
      (∀ tx', tx.encoded = tx'.encoded ↔ tx = tx') ∧
      (∀ c y, SignedTransaction.recovery c y ≤ 2 * (twoTo 64 - 1) + 36 ∧
        ∀ c' y', SignedTransaction.recovery c y = SignedTransaction.recovery c' y' ↔
          c = c' ∧ y = y') ∧
      tx.hash = Hash.ofKeccak tx.encoded :=
  ⟨SignedTransaction.decode?_encoded, fun _ => SignedTransaction.encoded_inj,
    fun c y => ⟨SignedTransaction.recovery_le c y, fun _ _ => SignedTransaction.recovery_inj⟩, rfl⟩

/-- A contract that is created on the last chain, with a signature of odd parity. -/
theorem wire_form_keeps_all_of_creation :
    let tx : SignedTransaction := ⟨⟨0, none, 0, 100000, 1, [0x60, 0x80]⟩,
      some (UInt64.ofNat (twoTo 64 - 1)), ⟨BitVec.ofNat 256 (twoTo 255), 1, true⟩⟩
    tx.unsigned.data.length < twoTo 63 ∧ tx.encoded.length = 56 ∧
      SignedTransaction.decode? tx.encoded = some tx := by
  intro tx
  have hdata : tx.unsigned.data.length < twoTo 63 := by decide
  exact ⟨hdata, by decide +kernel, (wire_form_keeps_all tx).1 hdata⟩

end NodeFleet

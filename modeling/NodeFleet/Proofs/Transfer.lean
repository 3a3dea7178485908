/-
  Transfers of value, from the wish to what happens.

  * `transfer`: the transaction of a transfer. `Account.outcome_sendWei`: at a price that is a gas
    price it is handed to the signer at once, without another read.
  * `Account.Handed`: what comes of handing a transaction to the signer, and the events of it.
  * `Signer.Faithful`: what is signed is what was asked for; keys in memory are faithful.
  * `leftover_eq_some`, `leftover_eq_none`: what is left of a balance when the fee is paid.
    `UnsignedTransaction.Drains`: value and fee are all of a balance.
  * `sendAllAt_drains`: sending all there is leaves nothing, and asks for no more than there is.
-/
import NodeFleet.Proofs.FixedPoint
import NodeFleet.Proofs.Validation

namespace NodeFleet

/-! ## Signers -/

/-- What is signed is what was asked for. -/
def Signer.Faithful (s : Signer) : Prop :=
  ∀ tx signed, s.sign tx = .ok signed → signed.unsigned = tx

theorem LocalKey.signer_faithful (k : LocalKey) : k.signer.Faithful := by
  rintro tx signed ⟨⟩
  rfl

/-! ## One transfer -/

/-- The transaction of a transfer. -/
def transfer (nonce : UInt64) (price : BitVec 128) (amount : Word) (to_ : Address) :
    UnsignedTransaction :=
  ⟨nonce, some to_, amount, transferGas, price, []⟩

section
variable {gwei : Binary64} {price : BitVec 128} {nonce : UInt64} {amount : Word} {to_ : Address}

theorem Units.isAmount_of_gweiToWeiPrice (h : gweiToWeiPrice gwei = .ok price) : gwei.IsAmount := by
  by_contra hbad
  obtain ⟨e, he⟩ := refused_gweiToWeiPrice_iff.2 hbad
  rw [h] at he
  cases he

/-- With nothing left open, composing reads nothing. -/
theorem Client.outcome_compose_transfer (c : Client) (sender : Address) (h : gwei.IsAmount)
    (nonce : UInt64) (amount : Word) (to_ : Address) (s : Session) :
    (c.compose sender (Account.transferWish nonce gwei amount to_)).outcome s =
      (((Units.gweiToWeiPrice gwei).mapError Error.ofAmount).map
        (transfer nonce · amount to_), s) := by
  have hvalid : (Account.transferWish nonce gwei amount to_).check = .ok () :=
    Wish.check_eq_ok_iff.2 fun hinvalid => Account.invalid_transferWish_iff.1 hinvalid h
  have hsteps : c.compose sender (Account.transferWish nonce gwei amount to_) =
      Run.ofResult ((Units.gweiToWeiPrice gwei).mapError Error.ofAmount) >>=
        fun price => pure (transfer nonce price amount to_) := by
    rw [compose_eq, hvalid]
    rfl
  rw [hsteps]
  cases Units.gweiToWeiPrice gwei <;> rfl

namespace Account

variable (a : Account)

/-- What comes of handing a transaction to the signer, with the events of it. It is not signed, and
    that is all; or what is signed is sent once to every node. -/
inductive Handed (tx : UnsignedTransaction) : Result Sent → List Stamped → Prop
  | refused (now : Millis) (e : Error) (hsign : a.signer.sign tx = .error e) :
    Handed tx (.error e) [⟨now, .signatureAsked tx⟩]
  | sent (now : Millis) (r : Sent) (hsign : a.signer.sign tx = .ok r.transaction) :
    Handed tx (.ok r) (⟨now, .signatureAsked tx⟩ ::
      a.broadcaster.nodes.map (⟨now, .asked ·.name (.sendRaw r.transaction.encoded)⟩))

theorem handed_signAndSend (tx : UnsignedTransaction) (s : Session) :
    ∃ r t trace, (a.signAndSend tx).outcome s = (r, t) ∧ t.events = s.events ++ trace ∧
      a.Handed tx r trace := by
  rw [outcome_signAndSend]
  cases hsign : a.signer.sign tx with
  | error e => exact ⟨_, _, _, rfl, rfl, .refused s.now e hsign⟩
  | ok transaction =>
    refine ⟨_, _, _, rfl, ?_, .sent s.now ⟨transaction, _⟩ hsign⟩
    simp [Broadcaster.run_sendRaw, Session.record]

variable {a}

/-- What is signed by a faithful signer is what was handed to it. -/
theorem Handed.unsigned {tx : UnsignedTransaction} {r : Sent} {trace : List Stamped}
    (h : a.Handed tx (.ok r) trace) (hfaithful : a.signer.Faithful) :
    r.transaction.unsigned = tx := by
  cases h with
  | sent now r hsign => exact hfaithful tx _ hsign

/-- A key in memory never refuses, and signs what was handed to it. -/
theorem Handed.signed_of_localKey {tx : UnsignedTransaction} {r : Result Sent}
    {trace : List Stamped} (h : a.Handed tx r trace) {k : LocalKey} (hkey : a.signer = k.signer) :
    ∃ sent, r = .ok sent ∧ sent.transaction.unsigned = tx := by
  have hfaithful : a.signer.Faithful := hkey ▸ k.signer_faithful
  cases h with
  | refused now e hsign =>
    rw [hkey] at hsign
    cases hsign
  | sent now r hsign => exact ⟨r, rfl, hfaithful tx _ hsign⟩

variable (a)

theorem outcome_sendWei (h : Units.gweiToWeiPrice gwei = .ok price) (s : Session) :
    (a.sendWei nonce gwei amount to_).outcome s =
      (a.signAndSend (transfer nonce price amount to_)).outcome s := by
  have hcompose := a.client.outcome_compose_transfer a.address (Units.isAmount_of_gweiToWeiPrice h)
    nonce amount to_ s
  rw [h] at hcompose
  rw [sendWei_eq, fulfil, Run.outcome_bind, hcompose]
  rfl

/-- Without a gas price a transfer fails, and nothing happens. -/
theorem outcome_sendWei_of_error {e : AmountError} (h : Units.gweiToWeiPrice gwei = .error e)
    (nonce : UInt64) (amount : Word) (to_ : Address) (s : Session) :
    ∃ e', (a.sendWei nonce gwei amount to_).outcome s = (.error e', s) := by
  by_cases hamount : gwei.IsAmount
  · have hcompose := a.client.outcome_compose_transfer a.address hamount nonce amount to_ s
    rw [h] at hcompose
    exact ⟨.ofAmount e, by rw [sendWei_eq, fulfil, Run.outcome_bind, hcompose]; rfl⟩
  · obtain ⟨e', he'⟩ := a.fulfil_refuses (invalid_transferWish_iff.2 hamount) s
    exact ⟨_, he'⟩

end Account

end

/-! ## All there is -/

namespace Account

variable {gwei : Binary64} {price balance : Word}

/-- The fee of a transfer at a price in Gwei is far below a word. -/
theorem toNat_fee (h : Units.gweiToWei gwei = .ok price) :
    (BitVec.ofNat 256 transferGas.toNat * price).toNat = 21000 * price.toNat := by
  have hprice := Units.toNat_gweiToWei_lt h
  have hgas : (BitVec.ofNat 256 transferGas.toNat).toNat = 21000 := by decide
  rw [BitVec.toNat_mul, hgas, Nat.mod_eq_of_lt]
  omega

theorem leftover_eq_some (h : Units.gweiToWei gwei = .ok price)
    (hcovered : 21000 * price.toNat < balance.toNat) :
    ∃ amount, leftover balance price = some amount ∧ 0 < amount.toNat ∧
      amount.toNat + 21000 * price.toNat = balance.toNat := by
  have hfee := toNat_fee h
  have hlt : BitVec.ofNat 256 transferGas.toNat * price < balance := by
    rw [BitVec.lt_def, hfee]
    exact hcovered
  refine ⟨_, by simp only [leftover, hlt, if_true]; rfl, ?_⟩
  rw [BitVec.toNat_sub_of_le (BitVec.le_of_lt hlt), hfee]
  omega

theorem leftover_eq_none (h : Units.gweiToWei gwei = .ok price)
    (huncovered : balance.toNat ≤ 21000 * price.toNat) : leftover balance price = none := by
  have hnot : ¬BitVec.ofNat 256 transferGas.toNat * price < balance := by
    rw [BitVec.lt_def, toNat_fee h]
    omega
  simp only [leftover, hnot, if_false]

end Account

/-- A transfer of something whose value and fee are all of a balance. -/
structure UnsignedTransaction.Drains (tx : UnsignedTransaction) (balance price : ℕ) : Prop where
  gasLimit : tx.gasLimit = 21000
  gasPrice : tx.gasPrice.toNat = price
  positive : 0 < tx.value.toNat
  total : tx.value.toNat + tx.gasLimit.toNat * tx.gasPrice.toNat = balance
  /-- The most that it can burn is no product that wraps. -/
  maxFee : tx.maxFee.toNat = tx.gasLimit.toNat * tx.gasPrice.toNat

namespace Account

variable {gwei : Binary64} {price balance : Word}

theorem drains_transfer (h : Units.gweiToWei gwei = .ok price) {amount : Word}
    (hpos : 0 < amount.toNat) (htotal : amount.toNat + 21000 * price.toNat = balance.toNat)
    (nonce : UInt64) (to_ : Address) :
    (transfer nonce (price.setWidth 128) amount to_).Drains balance.toNat price.toNat := by
  have hgas : transferGas.toNat = 21000 := by decide
  have hsame := Units.toNat_setWidth_gweiToWei h
  refine ⟨rfl, hsame, hpos, ?_, ?_⟩
  · simp only [transfer, hgas, hsame]
    exact htotal
  · rw [UnsignedTransaction.maxFee, BitVec.toNat_ofNat, Nat.mod_eq_of_lt]
    simp only [transfer, hgas, hsame]
    omega

variable (a : Account) {s s' s'' : Session} {nonce : UInt64}

theorem outcome_sendAllAt (hnonce : a.minedNonce.outcome s = (.ok nonce, s'))
    (hbalance : (a.client.balance a.address).outcome s' = (.ok balance, s''))
    (hprice : Units.gweiToWei gwei = .ok price) (to_ : Address) :
    (a.sendAllAt gwei to_).outcome s =
      match leftover balance price with
      | none => (.error (.validation (.feeNotCovered gwei)), s'')
      | some amount => (a.sendWei nonce gwei amount to_).outcome s'' := by
  simp only [sendAllAt, Run.outcome_bind, hnonce, hbalance, Run.outcome_ofResult, hprice,
    Except.mapError]
  cases leftover balance price <;> rfl

/-- **Sending all there is drains the account, and never overdraws it.** The price is one and the
    same for the reserved fee and for the transaction, and no product on the way is too large for
    its word. If the balance covers more than the fee, what is composed and handed to the signer
    sends the rest of it, so that value and fee are the balance; else the account is told so, and
    nothing but reads has happened. -/
theorem sendAllAt_drains (hnonce : a.minedNonce.outcome s = (.ok nonce, s'))
    (hbalance : (a.client.balance a.address).outcome s' = (.ok balance, s''))
    (hprice : Units.gweiToWei gwei = .ok price) (to_ : Address) :
    s.ReadsTo s'' ∧
    (∃ d, Decimal96.ofBinary64? gwei = some d ∧ d.significand < 2 ^ 96 ∧
      price.toNat = d.roundedUnits 9) ∧
    (∃ gasPrice, Units.gweiToWeiPrice gwei = .ok gasPrice ∧ gasPrice.toNat = price.toNat) ∧
    (BitVec.ofNat 256 transferGas.toNat * price).toNat = 21000 * price.toNat ∧
    (21000 * price.toNat < balance.toNat → ∃ tx r t trace,
      tx.nonce = nonce ∧ tx.to_ = some to_ ∧ tx.data = [] ∧
      tx.Drains balance.toNat price.toNat ∧
      (a.client.compose a.address (transferWish nonce gwei tx.value to_)).outcome s'' =
        (.ok tx, s'') ∧
      (a.sendAllAt gwei to_).outcome s = (r, t) ∧ t.events = s''.events ++ trace ∧
      a.Handed tx r trace ∧
      (a.signer.Faithful → ∀ sent, r = .ok sent → sent.transaction.unsigned = tx) ∧
      ∀ k : LocalKey, a.signer = k.signer →
        ∃ sent, r = .ok sent ∧ sent.transaction.unsigned = tx) ∧
    (balance.toNat ≤ 21000 * price.toNat →
      (a.sendAllAt gwei to_).outcome s = (.error (.validation (.feeNotCovered gwei)), s'')) := by
  have hreads : s.ReadsTo s'' := by
    have hfirst := a.heard_minedNonce.reads s
    have hsecond := (a.client.heard_balance a.address).reads s'
    rw [hnonce] at hfirst
    rw [hbalance] at hsecond
    exact hfirst.trans hsecond
  obtain ⟨d, hd, hunits⟩ := Units.toNat_toFixedPoint hprice (by decide)
  have hgasPrice := Units.gweiToWeiPrice_eq hprice
  have houtcome := a.outcome_sendAllAt hnonce hbalance hprice to_
  refine ⟨hreads, ⟨d, hd, (Decimal96.fits_of_ofBinary64? hd).significand_lt, hunits⟩,
    ⟨_, hgasPrice, Units.toNat_setWidth_gweiToWei hprice⟩, toNat_fee hprice, fun hcovered => ?_,
    fun huncovered => ?_⟩
  · obtain ⟨amount, hamount, hpos, htotal⟩ := leftover_eq_some hprice hcovered
    rw [hamount] at houtcome
    obtain ⟨r, t, trace, hsigned, hevents, hhanded⟩ :=
      a.handed_signAndSend (transfer nonce (price.setWidth 128) amount to_) s''
    have hcompose := a.client.outcome_compose_transfer a.address
      (Units.isAmount_of_gweiToWeiPrice hgasPrice) nonce amount to_ s''
    rw [hgasPrice] at hcompose
    refine ⟨_, r, t, trace, rfl, rfl, rfl, drains_transfer hprice hpos htotal nonce to_, hcompose,
      houtcome.trans ((a.outcome_sendWei hgasPrice s'').trans hsigned), hevents, hhanded, ?_,
      fun k hkey => hhanded.signed_of_localKey hkey⟩
    rintro hfaithful sent rfl
    exact hhanded.unsigned hfaithful
  · rw [houtcome, leftover_eq_none hprice huncovered]

end Account

/-- A node that tells at once the nonce and the balance of every account. -/
def Node.telling (name : String) (nonce : UInt64) (balance : Word) : Node where
  name
  serve _ r :=
    match r with
    | .nonce _ _ => ⟨0, some (.ok nonce)⟩
    | .balance _ => ⟨0, some (.ok balance)⟩
    | _ => ⟨0, none⟩

/-- An account over one such node. -/
def Account.told (sign : UnsignedTransaction → Result SignedTransaction) (nonce : UInt64)
    (balance : Word) : Account where
  signer := ⟨.zero, sign⟩
  client := .ofSorted [.telling "a" nonce balance] (List.pairwise_singleton _ _)
  broadcaster := ⟨[.telling "b" nonce balance], 4000⟩

/-- A signature under everything. -/
def signAnything (tx : UnsignedTransaction) : Result SignedTransaction :=
  .ok ⟨tx, none, ⟨1, 1, false⟩⟩

namespace Account

variable (sign : UnsignedTransaction → Result SignedTransaction) (nonce : UInt64) (balance : Word)
  (s : Session)

theorem minedNonce_told : ∃ s', (told sign nonce balance).minedNonce.outcome s = (.ok nonce, s') :=
  Client.outcome_first_of_single rfl _

theorem balance_told :
    ∃ s', ((told sign nonce balance).client.balance .zero).outcome s = (.ok balance, s') :=
  Client.outcome_first_of_single rfl _

/-- At one Gwei the fee is 21000 Gwei. With five wei more than that, five wei are sent; with just
    that, nothing is. -/
theorem sendAllAt_drains_of_five :
    let gwei : Binary64 := ⟨0x3FF0000000000000⟩
    let rich := told signAnything 7 21000000000005
    let poor := told signAnything 7 21000000000000
    (∃ sent t, (rich.sendAllAt gwei .zero).outcome .start = (.ok sent, t) ∧
      sent.transaction.unsigned.nonce = 7 ∧ sent.transaction.unsigned.value.toNat = 5) ∧
    ∃ t, (poor.sendAllAt gwei .zero).outcome .start =
      (.error (.validation (.feeNotCovered gwei)), t) ∧ Session.start.ReadsTo t := by
  intro gwei rich poor
  have hprice : Units.gweiToWei gwei = .ok 1000000000 := by decide +kernel
  constructor
  · obtain ⟨s', hnonce⟩ := minedNonce_told signAnything 7 21000000000005 .start
    obtain ⟨s'', hbalance⟩ := balance_told signAnything 7 21000000000005 s'
    obtain ⟨-, -, -, -, hcovered, -⟩ := sendAllAt_drains rich hnonce hbalance hprice .zero
    obtain ⟨tx, r, t, trace, hseven, -, -, hdrains, -, houtcome, -, hhanded, hunsigned, -⟩ :=
      hcovered (by decide)
    have hfaithful : rich.signer.Faithful := by
      rintro tx signed ⟨⟩
      rfl
    have htotal := hdrains.total
    rw [hdrains.gasLimit, hdrains.gasPrice] at htotal
    cases hhanded with
    | refused now e hsign => cases hsign
    | sent now sent hsign =>
      refine ⟨sent, t, houtcome, ?_, ?_⟩ <;> rw [hunsigned hfaithful sent rfl]
      · exact hseven
      · exact Nat.add_right_cancel (m := 21000000000000) htotal
  · obtain ⟨s', hnonce⟩ := minedNonce_told signAnything 7 21000000000000 .start
    obtain ⟨s'', hbalance⟩ := balance_told signAnything 7 21000000000000 s'
    obtain ⟨hreads, -, -, -, -, huncovered⟩ := sendAllAt_drains poor hnonce hbalance hprice .zero
    exact ⟨s'', huncovered (by decide), hreads⟩

end Account

end NodeFleet

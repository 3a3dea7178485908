/-
  What happens when something is sent from an account.

  * `Account.Order`: what can be asked of an account that ends in one transaction.
  * `Account.wish`: the reads of an order, which end in what is to be composed;
    `carryOut_eq`: every order is these reads, composing, one signature and one sending.
  * `carryOut_all_or_nothing`: an order that fails has sent nothing; one that succeeds has sent the
    one transaction that was signed, once to every node.
-/
import NodeFleet.Account
import NodeFleet.Proofs.Broadcast
import NodeFleet.Proofs.Effects
import NodeFleet.Proofs.Race

namespace NodeFleet

namespace Account

/-! ## Orders -/

/-- What can be asked of an account that ends in one transaction. -/
inductive Order where
  | ether (amount : Binary64) (to_ : Address)
  | wei (nonce : UInt64) (gwei : Binary64) (amount : Word) (to_ : Address)
  | all (to_ : Address)
  | allAt (gwei : Binary64) (to_ : Address)
  | token (token : Address) (amount : Binary64) (to_ : Address)
  | call (amount : Binary64) (contract : Address) (method : String) (args : List Abi.Value)
  | callPriced (gwei amount : Binary64) (contract : Address) (method : String)
      (args : List Abi.Value)
  | callAt (nonce : UInt64) (gwei amount : Binary64) (contract : Address) (method : String)
      (args : List Abi.Value)

variable (a : Account)

def carryOut : Order → Run Sent
  | .ether amount to_ => a.sendEth amount to_
  | .wei nonce gwei amount to_ => a.sendWei nonce gwei amount to_
  | .all to_ => a.sendAll to_
  | .allAt gwei to_ => a.sendAllAt gwei to_
  | .token token amount to_ => a.sendToken token amount to_
  | .call amount contract method args => a.callContract amount contract method args
  | .callPriced gwei amount contract method args =>
    a.callContractPriced gwei amount contract method args
  | .callAt nonce gwei amount contract method args =>
    a.callContractAt nonce gwei amount contract method args

/-! ## From orders to wishes -/

/-- A transfer of value with nothing left open. -/
def transferWish (nonce : UInt64) (gwei : Binary64) (amount : Word) (to_ : Address) : Wish :=
  ⟨some to_, amount, some nonce, some gwei, some transferGas, .empty⟩

def wishAllAt (gwei : Binary64) (to_ : Address) : Run Wish := do
  let nonce ← a.minedNonce
  let balance ← a.client.balance a.address
  let price ← Run.ofResult ((Units.gweiToWei gwei).mapError .ofAmount)
  match leftover balance price with
  | none => Run.fail (.validation (.feeNotCovered gwei))
  | some amount => return transferWish nonce gwei amount to_

def callWish (nonce : UInt64) (gwei amount : Binary64) (contract : Address) (method : String)
    (args : List Abi.Value) : Run Wish := do
  let value ← Run.ofResult (ether amount)
  return ⟨some contract, value, some nonce, some gwei, none, .call method args⟩

/-- What an order comes to once all is read that it depends on. -/
def wish : Order → Run Wish
  | .ether amount to_ => do
    let wei ← Run.ofResult (ether amount)
    let nonce ← a.minedNonce
    let gwei ← a.client.recommendedGasPrice
    return transferWish nonce gwei wei to_
  | .wei nonce gwei amount to_ => return transferWish nonce gwei amount to_
  | .all to_ => do
    let gwei ← a.client.recommendedGasPrice
    a.wishAllAt gwei to_
  | .allAt gwei to_ => a.wishAllAt gwei to_
  | .token token amount to_ => do
    let decimals ← a.client.tokenDecimals token none
    let units ← Run.ofResult ((Units.toFixedPoint amount decimals).mapError .ofAmount)
    let nonce ← a.minedNonce
    let gwei ← a.client.recommendedGasPrice
    return ⟨some token, 0, some nonce, some gwei, none, .raw (Token.transfer to_ units)⟩
  | .call amount contract method args => do
    let gwei ← a.client.recommendedGasPrice
    let nonce ← a.minedNonce
    callWish nonce gwei amount contract method args
  | .callPriced gwei amount contract method args => do
    let nonce ← a.minedNonce
    callWish nonce gwei amount contract method args
  | .callAt nonce gwei amount contract method args =>
    callWish nonce gwei amount contract method args

theorem sendAllAt_eq (gwei : Binary64) (to_ : Address) :
    a.sendAllAt gwei to_ = a.wishAllAt gwei to_ >>= a.fulfil := by
  simp only [sendAllAt, wishAllAt, bind_assoc]
  refine bind_congr fun nonce => bind_congr fun balance => bind_congr fun price => ?_
  cases leftover balance price <;> rfl

theorem callContractAt_eq (nonce : UInt64) (gwei amount : Binary64) (contract : Address)
    (method : String) (args : List Abi.Value) :
    a.callContractAt nonce gwei amount contract method args =
      callWish nonce gwei amount contract method args >>= a.fulfil := by
  simp only [callContractAt, callWish, bind_assoc, pure_bind]

/-- **Every order is some reads, and then one transaction that is composed, signed and sent.** -/
theorem carryOut_eq (o : Order) : a.carryOut o = a.wish o >>= a.fulfil := by
  cases o with
  | ether amount to_ => simp only [carryOut, wish, sendEth, bind_assoc, pure_bind]; rfl
  | wei nonce gwei amount to_ => rfl
  | all to_ => simp only [carryOut, wish, sendAll, sendAllAt_eq, bind_assoc]
  | allAt gwei to_ => exact a.sendAllAt_eq gwei to_
  | token token amount to_ => simp only [carryOut, wish, sendToken, bind_assoc, pure_bind]
  | call amount contract method args =>
    simp only [carryOut, wish, callContract, callContractPriced, callContractAt_eq, bind_assoc]
  | callPriced gwei amount contract method args =>
    simp only [carryOut, wish, callContractPriced, callContractAt_eq, bind_assoc]
  | callAt nonce gwei amount contract method args => exact a.callContractAt_eq ..

/-! ## The reads of an order -/

theorem heard_minedNonce : a.minedNonce.Heard := a.client.heard_minedNonce a.address

/-- What is to be sent next, at the recommended price. -/
theorem heard_next {α : Type} (f : UInt64 → Binary64 → α) :
    (do return f (← a.minedNonce) (← a.client.recommendedGasPrice) : Run α).Heard :=
  .bind a.heard_minedNonce fun _ => .bind a.client.admits_recommendedGasPrice.reads fun _ =>
    Run.onlyReads_pure _

theorem heard_wishAllAt (gwei : Binary64) (to_ : Address) : (a.wishAllAt gwei to_).Heard := by
  refine .bind a.heard_minedNonce fun nonce => .bind (a.client.heard_balance _).reads
    fun balance => .bind (Run.onlyReads_ofResult _) fun price => ?_
  split
  · exact Run.onlyReads_fail _
  · exact Run.onlyReads_pure _

theorem onlyReads_callWish {nonce : UInt64} {gwei amount : Binary64} {contract : Address}
    {method : String} {args : List Abi.Value} :
    (callWish nonce gwei amount contract method args).OnlyReads :=
  .bind (Run.onlyReads_ofResult _) fun _ => Run.onlyReads_pure _

/-- Whether something is asked before any of an order's numbers is looked at. -/
def Order.readsFirst : Order → Bool
  | .all .. | .allAt .. | .token .. | .call .. | .callPriced .. => true
  | .ether .. | .wei .. | .callAt .. => false

theorem heard_wish {o : Order} (h : o.readsFirst = true) : (a.wish o).Heard := by
  have hprice := a.client.admits_recommendedGasPrice
  cases o with
  | all to_ => exact hprice.bind_heard fun gwei => a.heard_wishAllAt gwei to_
  | allAt gwei to_ => exact a.heard_wishAllAt gwei to_
  | token token amount to_ =>
    exact .bind (a.client.heard_tokenDecimals token none) fun _ =>
      .bind (Run.onlyReads_ofResult _) fun _ => (a.heard_next _).reads
  | call amount contract method args =>
    exact hprice.bind_heard fun _ => .bind a.heard_minedNonce fun _ => onlyReads_callWish
  | callPriced gwei amount contract method args =>
    exact .bind a.heard_minedNonce fun _ => onlyReads_callWish
  | _ => cases h

theorem onlyReads_wish (o : Order) : (a.wish o).OnlyReads := by
  by_cases h : o.readsFirst = true
  · exact (a.heard_wish h).reads
  cases o with
  | ether amount to_ => exact .bind (Run.onlyReads_ofResult _) fun _ => (a.heard_next _).reads
  | wei nonce gwei amount to_ => exact Run.onlyReads_pure _
  | callAt nonce gwei amount contract method args => exact onlyReads_callWish
  | _ => exact absurd rfl h

/-! ## Signing and sending -/

theorem outcome_signAndSend (tx : UnsignedTransaction) (s : Session) :
    (a.signAndSend tx).outcome s =
      let asked := s.record [.signatureAsked tx]
      match a.signer.sign tx with
      | .error e => (.error e, asked)
      | .ok transaction =>
        let sent := (a.broadcaster.sendRaw transaction.encoded).run asked
        (.ok ⟨transaction, sent.1⟩, sent.2) := by
  simp only [signAndSend, Run.outcome_bind, Run.outcome_record, Run.outcome_ofResult]
  cases a.signer.sign tx <;> rfl

/-- Where reads that end in a wish lead to: nowhere, if there is nothing to compose; else through
    the composed transaction. -/
theorem outcome_bind_fulfil {m : Run Wish} (hm : m.OnlyReads) (s : Session) :
    (∃ e s', s.ReadsTo s' ∧ (m >>= a.fulfil).outcome s = (.error e, s')) ∨
    ∃ w before tx composed, m.outcome s = (.ok w, before) ∧
      (a.client.compose a.address w).outcome before = (.ok tx, composed) ∧
      s.ReadsTo composed ∧ (m >>= a.fulfil).outcome s = (a.signAndSend tx).outcome composed := by
  have hwish := hm s
  rw [Run.outcome_bind]
  rcases h : m.outcome s with ⟨e | w, before⟩ <;> rw [h] at hwish
  · exact Or.inl ⟨e, before, hwish, rfl⟩
  have hcompose := hwish.trans (a.client.onlyReads_compose a.address w before)
  simp only [fulfil, Run.outcome_bind]
  rcases h : (a.client.compose a.address w).outcome before with ⟨e | tx, composed⟩ <;>
    rw [h] at hcompose
  · exact Or.inl ⟨e, composed, hcompose, rfl⟩
  · exact Or.inr ⟨w, before, tx, composed, rfl, h, hcompose, rfl⟩

theorem outcome_carryOut (o : Order) (s : Session) :
    (∃ e s', s.ReadsTo s' ∧ (a.carryOut o).outcome s = (.error e, s')) ∨
    ∃ w before tx composed, (a.wish o).outcome s = (.ok w, before) ∧
      (a.client.compose a.address w).outcome before = (.ok tx, composed) ∧
      s.ReadsTo composed ∧ (a.carryOut o).outcome s = (a.signAndSend tx).outcome composed := by
  rw [carryOut_eq]
  exact a.outcome_bind_fulfil (a.onlyReads_wish o) s

end Account

/-- What sends something to a node. -/
def Event.isSending : Event → Bool
  | .asked _ (.sendRaw _) => true
  | _ => false

theorem Event.isSending_eq_false {e : Event} (h : e.isRead = true) : e.isSending = false := by
  cases e with
  | asked node r =>
    cases r with
    | sendRaw raw => cases h
    | _ => rfl
  | _ => rfl

namespace Account

/-- **All or nothing.** An order that fails, wherever it does, has sent nothing to any node. One
    that succeeds has made its reads, composed a transaction, asked once for a signature of it, and
    sent the bytes of what was signed once to every node, and nothing else; its hash is the digest
    of these bytes, whatever the nodes say. -/
theorem carryOut_all_or_nothing (a : Account) (o : Order) (s : Session) :
    (∀ e s', (a.carryOut o).outcome s = (.error e, s') →
      ∃ added, s'.events = s.events ++ added ∧ ∀ x ∈ added, x.event.isSending = false) ∧
    (∀ r s', (a.carryOut o).outcome s = (.ok r, s') →
      ∃ w before tx composed reads,
        (a.wish o).outcome s = (.ok w, before) ∧
        (a.client.compose a.address w).outcome before = (.ok tx, composed) ∧
        composed.events = s.events ++ reads ∧ (∀ x ∈ reads, x.event.isRead = true) ∧
        a.signer.sign tx = .ok r.transaction ∧
        s'.events = composed.events ++ ⟨composed.now, .signatureAsked tx⟩ ::
          a.broadcaster.nodes.map
            (⟨composed.now, .asked ·.name (.sendRaw r.transaction.encoded)⟩) ∧
        r.outcome.hash = Hash.ofKeccak r.transaction.encoded ∧
        r.outcome.hash = r.transaction.hash) := by
  rcases a.outcome_carryOut o s with
    ⟨e, s', ⟨reads, hevents, hreads⟩, h⟩ |
    ⟨w, before, tx, composed, hwish, hcompose, ⟨reads, hevents, hreads⟩, h⟩
  · refine ⟨fun e' t ht => ?_, fun r t ht => ?_⟩ <;> rw [h] at ht <;> cases ht
    exact ⟨reads, hevents, fun x hx => Event.isSending_eq_false (hreads x hx)⟩
  rw [h, outcome_signAndSend]
  cases hsign : a.signer.sign tx with
  | error e =>
    -- The signer has been asked, and this is the last event.
    refine ⟨?_, by rintro r s' ⟨⟩⟩
    rintro e' s' ⟨⟩
    refine ⟨reads ++ [⟨composed.now, .signatureAsked tx⟩], ?_, fun x hx => ?_⟩
    · simp [Session.record, hevents]
    · rcases List.mem_append.1 hx with hx | hx
      · exact Event.isSending_eq_false (hreads x hx)
      · rw [List.mem_singleton.1 hx]
        rfl
  | ok transaction =>
    refine ⟨by rintro e s' ⟨⟩, ?_⟩
    rintro r s' ⟨⟩
    exact ⟨w, before, tx, composed, reads, hwish, hcompose, hevents, hreads, hsign,
      by simp [Broadcaster.run_sendRaw, Session.record], rfl, rfl⟩

/-- A transfer that is signed reaches two nodes, one of which dies of it; one that is not signed
    reaches none. -/
theorem carryOut_all_or_nothing_of_two :
    let account (sign : UnsignedTransaction → Result SignedTransaction) : Account :=
      ⟨⟨.zero, sign⟩, .trio, ⟨[.sentTo "x" 3 none, .sentTo "y" 0 (some (.ok .zero))], 4000⟩⟩
    let signing := account fun tx => .ok ⟨tx, none, ⟨1, 1, false⟩⟩
    let refusing := account fun _ => .error (.signer (.other "locked"))
    let order : Order := .wei 7 (.zero false) 1 .zero
    (∃ r s', (signing.carryOut order).outcome .start = (.ok r, s') ∧
      s'.asked = [("x", .sendRaw r.transaction.encoded), ("y", .sendRaw r.transaction.encoded)] ∧
      r.outcome.hash = r.transaction.hash) ∧
    ∃ e s', (refusing.carryOut order).outcome .start = (.error e, s') ∧
      ∀ x ∈ s'.events, x.event.isSending = false := by
  intro account signing refusing order
  have hsent : ∃ r s', (signing.carryOut order).outcome .start = (.ok r, s') := ⟨_, _, rfl⟩
  have hfailed : ∃ e s', (refusing.carryOut order).outcome .start = (.error e, s') := ⟨_, _, rfl⟩
  constructor
  · obtain ⟨r, s', h⟩ := hsent
    obtain ⟨w, before, tx, composed, reads, hwish, hcompose, -, -, -, hevents, -, hhash⟩ :=
      (carryOut_all_or_nothing signing order .start).2 r s' h
    refine ⟨r, s', h, ?_, hhash⟩
    cases hwish
    cases hcompose
    rw [Session.asked, hevents]
    rfl
  · obtain ⟨e, s', h⟩ := hfailed
    obtain ⟨added, hevents, hadded⟩ := (carryOut_all_or_nothing refusing order .start).1 e s' h
    exact ⟨e, s', h, by rwa [hevents]⟩

end Account

end NodeFleet

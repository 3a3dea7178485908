/-
  Which invalid input is refused before anything has happened.

  * `Binary64.IsAmount`: the numbers that can be amounts and prices. `Wish.Invalid`,
    `Account.Order.Invalid`: what should be refused.
  * `Account.Order.RefusedAtOnce`, `Account.InvalidFirst`: what is refused at once.
  * `refuses_at_once_iff`: this and no more is; invalid input that is not refused at once fails too,
    but only after reads.
  * `sendAllAt_asks_first`: a negative price that a node is asked for first.
-/
import NodeFleet.Proofs.Sending

namespace NodeFleet

/-! ## Numbers -/

/-- What can be an amount or a price: a finite number that is not negative. -/
def Binary64.IsAmount (x : Binary64) : Prop := x.isFinite = true ∧ x.isNegative = false

instance : DecidablePred Binary64.IsAmount := fun _ => inferInstanceAs (Decidable (_ ∧ _))

namespace Units

theorem refused_ofAmount_iff {α : Type} {r : Except AmountError α} :
    Result.Refused (r.mapError .ofAmount) ↔
      (∃ x, r = .error (.notFinite x)) ∨ ∃ x, r = .error (.negative x) := by
  cases r with
  | ok a => simp [Except.mapError, Result.not_refused_ok]
  | error e => cases e <;> simp [Except.mapError, Error.ofAmount, Result.refused_error_iff]

/-- What is no amount is called invalid; an amount is at most too large. -/
theorem refused_toFixedPoint_iff {x : Binary64} {decimals : UInt8} :
    Result.Refused ((toFixedPoint x decimals).mapError .ofAmount) ↔ ¬x.IsAmount := by
  rw [refused_ofAmount_iff, toFixedPoint, Binary64.IsAmount]
  cases x.isFinite with
  | false => simp
  | true =>
    cases x.isNegative with
    | true => simp
    | false =>
      cases Decimal96.ofBinary64? x with
      | none => simp
      | some d =>
        simp only [Bool.not_true, Bool.false_eq_true, if_false]
        split <;> simp

theorem refused_gweiToWeiPrice_iff {gwei : Binary64} :
    Result.Refused ((gweiToWeiPrice gwei).mapError .ofAmount) ↔ ¬gwei.IsAmount := by
  rw [← @refused_toFixedPoint_iff gwei gweiDecimals, refused_ofAmount_iff,
    refused_ofAmount_iff, gweiToWeiPrice, gweiToWei]
  cases toFixedPoint gwei gweiDecimals with
  | error e => simp
  | ok wei =>
    simp only
    split <;> simp

end Units

/-! ## Composing -/

/-- A price that is none, or a call of nothing. -/
def Wish.Invalid (w : Wish) : Prop :=
  (∃ gwei, w.gasPriceGwei = some gwei ∧ ¬gwei.IsAmount) ∨
    (∃ method args, w.payload = .call method args) ∧ w.to_ = none

namespace Wish

variable {w : Wish}

theorem checkPrice_eq_ok_iff {gwei : Binary64} : checkPrice gwei = .ok () ↔ gwei.IsAmount := by
  unfold checkPrice Binary64.IsAmount
  cases gwei.isFinite <;> cases gwei.isNegative <;> simp

theorem checkDestination_eq_ok_iff : w.checkDestination = .ok () ↔
    ¬((∃ method args, w.payload = .call method args) ∧ w.to_ = none) := by
  unfold checkDestination
  cases w.payload <;> cases w.to_ <;> simp

theorem check_eq_ok_iff : w.check = .ok () ↔ ¬w.Invalid := by
  rw [Invalid, not_or, ← checkDestination_eq_ok_iff, check]
  cases w.gasPriceGwei with
  | none => simp
  | some gwei =>
    simp only [Option.some.injEq, exists_eq_left', not_not, ← checkPrice_eq_ok_iff]
    cases checkPrice gwei with
    | error e => simp [bind, Except.bind]
    | ok _ => simp [bind, Except.bind]

end Wish

namespace Client

variable (c : Client)

/-- **Composing refuses an invalid wish before it does anything.** -/
theorem compose_refuses {w : Wish} (h : w.Invalid) (sender : Address) (s : Session) :
    ∃ e, (c.compose sender w).outcome s = (.error (.validation e), s) := by
  rw [compose_eq]
  cases hcheck : w.check with
  | ok _ => exact absurd h (Wish.check_eq_ok_iff.1 hcheck)
  | error e => exact ⟨e, rfl⟩

theorem admits_calldata {w : Wish} (h : w.checkDestination = .ok ()) : (c.calldata w).Admits := by
  unfold calldata
  split
  · exact Run.admits_pure _
  · exact Run.admits_pure _
  · next hpayload hto => simp [Wish.checkDestination, hpayload, hto] at h
  · exact (c.heard_packCall ..).toAdmits

theorem admits_gasLimit (sender : Address) (w : Wish) {gwei : Binary64} (h : gwei.IsAmount)
    (data : Bytes) : (c.gasLimit sender w gwei data).Admits := by
  unfold gasLimit
  split
  · exact Run.admits_pure _
  · exact Run.admits_pure _
  · exact .bind (Run.admits_ofResult (mt Units.refused_gweiToWeiPrice_iff.1 (not_not.2 h)))
      fun _ => (c.heard_first _ rfl).toAdmits

/-- A valid wish that leaves neither nonce nor price open is not refused at once. -/
theorem admits_compose {w : Wish} {nonce : UInt64} {gwei : Binary64} (h : ¬w.Invalid)
    (hnonce : w.nonce = some nonce) (hgwei : w.gasPriceGwei = some gwei) (sender : Address) :
    (c.compose sender w).Admits := by
  have hprice : gwei.IsAmount := not_not.1 fun hprice => h (Or.inl ⟨gwei, hgwei, hprice⟩)
  have hdestination : w.checkDestination = .ok () :=
    Wish.checkDestination_eq_ok_iff.2 fun hcall => h (Or.inr hcall)
  simp only [compose_eq, Wish.check_eq_ok_iff.2 h, nonceFor, priceFor, hnonce, hgwei, pure_bind]
  exact .bind (Run.admits_pure ()) fun _ => .bind (c.admits_calldata hdestination) fun data =>
    .bind (c.admits_gasLimit sender w hprice data) fun gasLimit =>
    .bind (Run.admits_ofResult (mt Units.refused_gweiToWeiPrice_iff.1 (not_not.2 hprice)))
      fun gasPrice => Run.admits_pure _

end Client

namespace Account

variable (a : Account)

theorem grows_signAndSend (tx : UnsignedTransaction) : (a.signAndSend tx).Grows := by
  intro s
  rw [outcome_signAndSend]
  cases a.signer.sign tx with
  | error e => exact List.prefix_append ..
  | ok transaction =>
    simp only [Broadcaster.run_sendRaw]
    exact (List.prefix_append ..).trans (List.prefix_append ..)

theorem not_refuses_signAndSend (tx : UnsignedTransaction) (s : Session) :
    ¬(a.signAndSend tx).Refuses s := by
  rw [Run.Refuses, outcome_signAndSend]
  cases a.signer.sign tx with
  | error e => simp [Session.record]
  | ok transaction => simp [Result.not_refused_ok]

theorem grows_fulfil (w : Wish) : (a.fulfil w).Grows :=
  .bind (a.client.onlyReads_compose a.address w).grows a.grows_signAndSend

theorem fulfil_refuses {w : Wish} (h : w.Invalid) (s : Session) :
    ∃ e, (a.fulfil w).outcome s = (.error (.validation e), s) := by
  obtain ⟨e, he⟩ := a.client.compose_refuses h a.address s
  exact ⟨e, by rw [fulfil, Run.outcome_bind, he]⟩

theorem refuses_fulfil_iff {w : Wish} {nonce : UInt64} {gwei : Binary64}
    (hnonce : w.nonce = some nonce) (hgwei : w.gasPriceGwei = some gwei) {s : Session} :
    (a.fulfil w).Refuses s ↔ w.Invalid := by
  have hreads := a.client.onlyReads_compose a.address w
  constructor
  · intro hrefuses
    by_contra hvalid
    rcases (Run.refuses_bind hreads.grows a.grows_signAndSend).1 hrefuses with
      h | ⟨tx, s', -, -, h⟩
    · exact (a.client.admits_compose hvalid hnonce hgwei a.address).admits s h
    · exact a.not_refuses_signAndSend tx s' h
  · intro hinvalid
    obtain ⟨e, he⟩ := a.fulfil_refuses hinvalid s
    exact ⟨⟨e, by rw [he]⟩, by rw [he]⟩

theorem invalid_transferWish_iff {nonce : UInt64} {gwei : Binary64} {amount : Word}
    {to_ : Address} : (transferWish nonce gwei amount to_).Invalid ↔ ¬gwei.IsAmount := by
  simp [Wish.Invalid, transferWish]

theorem refused_ether_iff {amount : Binary64} : (ether amount).Refused ↔ ¬amount.IsAmount :=
  Units.refused_toFixedPoint_iff

theorem ether_eq_ok_iff {amount : Binary64} {wei : Word} :
    ether amount = .ok wei ↔ Units.ethToWei amount = .ok wei := by
  unfold ether
  cases Units.ethToWei amount <;> simp [Except.mapError]

/-! ## Single orders -/

namespace Order

/-- The numbers of an order that a caller gives as numbers of coins, tokens or Gwei. -/
def numbers : Order → List Binary64
  | .ether amount _ => [amount]
  | .wei _ gwei _ _ => [gwei]
  | .all _ => []
  | .allAt gwei _ => [gwei]
  | .token _ amount _ => [amount]
  | .call amount .. => [amount]
  | .callPriced gwei amount .. => [gwei, amount]
  | .callAt _ gwei amount .. => [gwei, amount]

/-- A number of the order is no amount. -/
def Invalid (o : Order) : Prop := ∃ x ∈ o.numbers, ¬x.IsAmount

/-- What is refused at once: a bad amount of ether, or a bad price at a given nonce, unless an
    amount that is too large is found before it. -/
def RefusedAtOnce : Order → Prop
  | .ether amount _ => ¬amount.IsAmount
  | .wei _ gwei _ _ => ¬gwei.IsAmount
  | .callAt _ gwei amount .. =>
    ¬amount.IsAmount ∨ (∃ wei, Units.ethToWei amount = .ok wei) ∧ ¬gwei.IsAmount
  | .all .. | .allAt .. | .token .. | .call .. | .callPriced .. => False

theorem not_refusedAtOnce {o : Order} (h : o.readsFirst = true) : ¬o.RefusedAtOnce := by
  cases o with
  | ether | wei | callAt => cases h
  | _ => exact id

end Order

theorem not_refuses_of_heard {m : Run Wish} (h : m.Heard) {s : Session} :
    ¬(m >>= a.fulfil).Refuses s := by
  intro hrefuses
  rcases (Run.refuses_bind h.reads.grows a.grows_fulfil).1 hrefuses with hm | ⟨w, s', hw, hquiet, -⟩
  · exact h.admits s hm
  · exact h.heard s w (by rw [hw]) (by rw [hw, hquiet])

theorem refuses_carryOut_iff (o : Order) (s : Session) :
    (a.carryOut o).Refuses s ↔ o.RefusedAtOnce := by
  by_cases hreads : o.readsFirst = true
  · have hnot : ¬(a.carryOut o).Refuses s := by
      rw [carryOut_eq]
      exact a.not_refuses_of_heard (a.heard_wish hreads)
    exact iff_of_false hnot (Order.not_refusedAtOnce hreads)
  cases o with
  | ether amount to_ =>
    -- Once the amount is converted, the nonce is asked for before anything else can be refused.
    rw [carryOut_eq, wish, bind_assoc, Run.refuses_ofResult_bind, refused_ether_iff]
    refine or_iff_left ?_
    rintro ⟨wei, -, h⟩
    exact a.not_refuses_of_heard (a.heard_next _) h
  | wei nonce gwei amount to_ =>
    exact (a.refuses_fulfil_iff rfl rfl).trans invalid_transferWish_iff
  | callAt nonce gwei amount contract method args =>
    have hcall (value : Word) : (a.fulfil ⟨some contract, value, some nonce, some gwei, none,
        .call method args⟩).Refuses s ↔ ¬gwei.IsAmount := by
      rw [a.refuses_fulfil_iff rfl rfl]
      simp [Wish.Invalid]
    rw [carryOut, callContractAt, Run.refuses_ofResult_bind, refused_ether_iff]
    simp only [hcall, ether_eq_ok_iff, exists_and_right, Order.RefusedAtOnce]
  | _ => exact absurd rfl hreads

theorem fails_fulfil {w : Wish} (h : w.Invalid) : (a.fulfil w).Fails := by
  intro s
  obtain ⟨e, he⟩ := a.fulfil_refuses h s
  exact ⟨.validation e, s, he, .of_eq rfl⟩

theorem fails_sendAllAt {gwei : Binary64} (h : ¬gwei.IsAmount) (to_ : Address) :
    (a.sendAllAt gwei to_).Fails :=
  a.heard_minedNonce.reads.bind_fails fun _ => (a.client.heard_balance _).reads.bind_fails fun _ =>
    .bind (Run.fails_refused (Units.refused_toFixedPoint_iff.2 h))

theorem fails_callContractAt {nonce : UInt64} {gwei amount : Binary64} {contract : Address}
    {method : String} {args : List Abi.Value} (h : ¬amount.IsAmount ∨ ¬gwei.IsAmount) :
    (a.callContractAt nonce gwei amount contract method args).Fails := by
  rcases h with hamount | hgwei
  · exact .bind (Run.fails_refused (refused_ether_iff.2 hamount))
  · exact (Run.onlyReads_ofResult _).bind_fails fun _ =>
      a.fails_fulfil (Or.inl ⟨gwei, rfl, hgwei⟩)

/-- An invalid order fails, and nothing is signed or sent for it. -/
theorem fails_carryOut {o : Order} (h : o.Invalid) : (a.carryOut o).Fails := by
  have hnonce := a.heard_minedNonce.reads
  have hprice := a.client.admits_recommendedGasPrice.reads
  obtain ⟨x, hx, hbad⟩ := h
  cases o with
  | ether amount to_ =>
    obtain rfl := List.mem_singleton.1 hx
    exact .bind (Run.fails_refused (refused_ether_iff.2 hbad))
  | wei nonce gwei amount to_ =>
    obtain rfl := List.mem_singleton.1 hx
    exact a.fails_fulfil (invalid_transferWish_iff.2 hbad)
  | all to_ => cases hx
  | allAt gwei to_ =>
    obtain rfl := List.mem_singleton.1 hx
    exact a.fails_sendAllAt hbad to_
  | token token amount to_ =>
    obtain rfl := List.mem_singleton.1 hx
    exact (a.client.heard_tokenDecimals token none).reads.bind_fails fun _ =>
      .bind (Run.fails_refused (Units.refused_toFixedPoint_iff.2 hbad))
  | call amount contract method args =>
    obtain rfl := List.mem_singleton.1 hx
    exact hprice.bind_fails fun _ => hnonce.bind_fails fun _ =>
      a.fails_callContractAt (Or.inl hbad)
  | callPriced gwei amount contract method args =>
    refine hnonce.bind_fails fun _ => a.fails_callContractAt ?_
    rcases List.mem_pair.1 hx with rfl | rfl
    · exact Or.inr hbad
    · exact Or.inl hbad
  | callAt nonce gwei amount contract method args =>
    refine a.fails_callContractAt ?_
    rcases List.mem_pair.1 hx with rfl | rfl
    · exact Or.inr hbad
    · exact Or.inl hbad

/-! ## Many transfers -/

theorem refused_checkLengths_iff {amounts : List Binary64} {addresses : List Address} :
    Result.Refused ((checkLengths amounts addresses).mapError .validation) ↔
      amounts.length ≠ addresses.length := by
  unfold checkLengths
  split <;> simp [Except.mapError, Result.refused_error_iff, Result.not_refused_ok, *]

/-- The first amount that cannot be converted is none. -/
def InvalidFirst (amounts : List Binary64) : Prop :=
  ∃ before x after, amounts = before ++ x :: after ∧
    (∀ y ∈ before, ∃ wei, Units.ethToWei y = .ok wei) ∧ ¬x.IsAmount

theorem not_invalidFirst_nil : ¬InvalidFirst [] := by
  rintro ⟨before, x, after, h, -⟩
  simp at h

theorem invalidFirst_cons {x : Binary64} {xs : List Binary64} :
    InvalidFirst (x :: xs) ↔
      ¬x.IsAmount ∨ (∃ wei, Units.ethToWei x = .ok wei) ∧ InvalidFirst xs := by
  constructor
  · rintro ⟨before, y, after, heq, hbefore, hy⟩
    cases before with
    | nil =>
      obtain ⟨rfl, rfl⟩ := List.cons.inj heq
      exact Or.inl hy
    | cons z before =>
      obtain ⟨rfl, rfl⟩ := List.cons.inj heq
      obtain ⟨hx, hbefore⟩ := List.forall_mem_cons.1 hbefore
      exact Or.inr ⟨hx, before, y, after, rfl, hbefore, hy⟩
  · rintro (hx | ⟨hx, before, y, after, rfl, hbefore, hy⟩)
    · exact ⟨[], x, xs, rfl, by simp, hx⟩
    · exact ⟨x :: before, y, after, rfl, List.forall_mem_cons.2 ⟨hx, hbefore⟩, hy⟩

theorem refused_mapM_ether_iff {amounts : List Binary64} :
    Result.Refused (amounts.mapM ether) ↔ InvalidFirst amounts := by
  induction amounts with
  | nil => exact iff_of_false (Result.not_refused_ok _) not_invalidFirst_nil
  | cons x xs ih =>
    rw [invalidFirst_cons, ← ih, ← refused_ether_iff, List.mapM_cons]
    simp only [← ether_eq_ok_iff]
    cases ether x with
    | error e => simp [bind, Except.bind, Result.refused_error_iff]
    | ok wei =>
      cases List.mapM ether xs <;>
        simp [bind, Except.bind, pure, Except.pure, Result.refused_error_iff, Result.not_refused_ok]

/-- Amounts are converted one by one, or not at all. -/
theorem mapM_ether_eq_ok_iff {amounts : List Binary64} {wei : List Word} :
    amounts.mapM ether = .ok wei ↔ List.Forall₂ (fun x w => ether x = .ok w) amounts wei := by
  induction amounts generalizing wei with
  | nil => simp [pure, Except.pure, eq_comm]
  | cons x xs ih =>
    simp only [List.mapM_cons, List.forall₂_cons_left_iff, ← ih]
    cases ether x with
    | error e => simp [bind, Except.bind]
    | ok first =>
      cases xs.mapM ether with
      | error e => simp [bind, Except.bind]
      | ok rest => simp [bind, Except.bind, pure, Except.pure, eq_comm]

theorem exists_ether_of_mem {amounts : List Binary64} {wei : List Word}
    (h : amounts.mapM ether = .ok wei) {x : Binary64} (hx : x ∈ amounts) :
    ∃ w, ether x = .ok w := by
  obtain ⟨i, hi, rfl⟩ := List.mem_iff_getElem.1 hx
  have hall := mapM_ether_eq_ok_iff.1 h
  exact ⟨_, hall.get hi (hall.length_eq ▸ hi)⟩

theorem exists_mem_of_mapM_ether_eq_error {amounts : List Binary64} {e : Error}
    (h : amounts.mapM ether = .error e) : ∃ x ∈ amounts, ∀ w, ether x ≠ .ok w := by
  induction amounts generalizing e with
  | nil => cases h
  | cons x xs ih =>
    rw [List.mapM_cons] at h
    cases hx : ether x with
    | error reason => exact ⟨x, .head _, by simp [hx]⟩
    | ok first =>
      cases hxs : xs.mapM ether with
      | error reason =>
        obtain ⟨y, hy, hbad⟩ := ih hxs
        exact ⟨y, .tail _ hy, hbad⟩
      | ok rest => simp [hx, hxs, bind, Except.bind, pure, Except.pure] at h

theorem mapM_ether_ne_ok {amounts : List Binary64} {x : Binary64} (hx : x ∈ amounts)
    (hbad : ¬x.IsAmount) (wei : List Word) : amounts.mapM ether ≠ .ok wei := by
  intro h
  obtain ⟨w, hw⟩ := exists_ether_of_mem h hx
  obtain ⟨e, he⟩ := refused_ether_iff.2 hbad
  rw [hw] at he
  cases he

theorem sendWei_eq (nonce : UInt64) (gwei : Binary64) (amount : Word) (to_ : Address) :
    a.sendWei nonce gwei amount to_ = a.fulfil (transferWish nonce gwei amount to_) :=
  rfl

theorem run_sendEach_cons (gwei : Binary64) (nonce : UInt64) (amount : Word) (to_ : Address)
    (rest : List (Word × Address)) (s : Session) :
    (a.sendEach gwei nonce ((amount, to_) :: rest)).run s =
      let sent := (a.sendWei nonce gwei amount to_).outcome s
      let others := (a.sendEach gwei (nonce + 1) rest).run sent.2
      (sent.1 :: others.1, others.2) :=
  rfl

theorem grows_sendEach (gwei : Binary64) (nonce : UInt64) (transfers : List (Word × Address)) :
    (liftM (a.sendEach gwei nonce transfers) : Run (List (Result Sent))).Grows := by
  induction transfers generalizing nonce with
  | nil => exact fun s => List.prefix_rfl
  | cons transfer rest ih => exact fun s => (a.grows_fulfil _ s).trans (ih (nonce + 1) _)

/-- At an invalid price every transfer of a batch is refused, and nothing happens. -/
theorem run_sendEach_of_invalid {gwei : Binary64} (h : ¬gwei.IsAmount) (nonce : UInt64)
    (transfers : List (Word × Address)) (s : Session) :
    ∃ results, (a.sendEach gwei nonce transfers).run s = (results, s) ∧
      results.length = transfers.length ∧ ∀ r ∈ results, r.Refused := by
  induction transfers generalizing nonce with
  | nil => exact ⟨[], rfl, rfl, by simp⟩
  | cons transfer rest ih =>
    obtain ⟨amount, to_⟩ := transfer
    obtain ⟨e, hsent⟩ := a.fulfil_refuses (invalid_transferWish_iff.2 h) s
    obtain ⟨results, hrun, hlength, hrefused⟩ := ih (nonce + 1)
    refine ⟨.error (.validation e) :: results, ?_, by simp [hlength], ?_⟩
    · rw [run_sendEach_cons, sendWei_eq, hsent]
      simp only [hrun]
    · rintro r (_ | ⟨_, hr⟩)
      · exact ⟨e, rfl⟩
      · exact hrefused r hr

theorem grows_batch (gwei : Binary64) (transfers : List (Word × Address)) :
    (do a.sendEach gwei (← a.minedNonce) transfers : Run (List (Result Sent))).Grows :=
  .bind a.heard_minedNonce.reads.grows fun nonce => a.grows_sendEach gwei nonce transfers

theorem not_refuses_batch (gwei : Binary64) (transfers : List (Word × Address)) (s : Session) :
    ¬(do a.sendEach gwei (← a.minedNonce) transfers : Run (List (Result Sent))).Refuses s := by
  intro hrefuses
  rcases (Run.refuses_bind a.heard_minedNonce.reads.grows fun nonce =>
    a.grows_sendEach gwei nonce transfers).1 hrefuses with h | ⟨nonce, s', -, -, h⟩
  · exact a.heard_minedNonce.admits s h
  · exact Result.not_refused_ok _ h.1

theorem grows_sendManyAt (gwei : Binary64) (amounts : List Binary64) (addresses : List Address) :
    (a.sendManyAt gwei amounts addresses).Grows :=
  .bind (Run.onlyReads_ofResult _).grows fun _ => .bind (Run.onlyReads_ofResult _).grows fun wei =>
    a.grows_batch gwei (wei.zip addresses)

theorem refuses_checked_iff {α : Type} {m : Run α} {amounts : List Binary64}
    {addresses : List Address} {s : Session} :
    (do Run.ofResult ((checkLengths amounts addresses).mapError .validation); m).Refuses s ↔
      amounts.length ≠ addresses.length ∨ m.Refuses s := by
  rw [Run.refuses_ofResult_bind, refused_checkLengths_iff, exists_and_right]
  refine or_congr_right' fun hlength => and_iff_right ⟨(), ?_⟩
  rw [checkLengths, if_pos (not_not.1 hlength)]
  rfl

theorem refuses_sendManyAt_iff {gwei : Binary64} {amounts : List Binary64}
    {addresses : List Address} {s : Session} :
    (a.sendManyAt gwei amounts addresses).Refuses s ↔
      amounts.length ≠ addresses.length ∨ InvalidFirst amounts := by
  rw [sendManyAt, refuses_checked_iff, Run.refuses_ofResult_bind, refused_mapM_ether_iff]
  simp only [not_refuses_batch, and_false, exists_false, or_false]

theorem refuses_sendMany_iff {amounts : List Binary64} {addresses : List Address} {s : Session} :
    (a.sendMany amounts addresses).Refuses s ↔ amounts.length ≠ addresses.length ∨
      InvalidFirst amounts ∧ ∃ gwei s', a.client.recommendedGasPrice.outcome s = (.ok gwei, s') ∧
        s'.events = s.events := by
  have hprice := a.client.admits_recommendedGasPrice
  have hgrows (gwei : Binary64) := a.grows_sendManyAt gwei amounts addresses
  rw [sendMany, refuses_checked_iff, Run.refuses_bind hprice.reads.grows hgrows]
  refine or_congr_right' fun hlength => ?_
  -- A price that is kept or fixed is had without a trace, so the amounts may be refused after it.
  rw [or_iff_right (hprice.admits s)]
  simp only [refuses_sendManyAt_iff, hlength, false_or]
  constructor
  · rintro ⟨gwei, s', h, hquiet, hfirst⟩
    exact ⟨hfirst, gwei, s', h, hquiet⟩
  · rintro ⟨hfirst, gwei, s', h, hquiet⟩
    exact ⟨gwei, s', h, hquiet, hfirst⟩

/-- A batch with an amount that is none fails, and nothing is signed or sent for it. -/
theorem fails_sendManyAt {gwei : Binary64} {amounts : List Binary64} {addresses : List Address}
    (h : amounts.length ≠ addresses.length ∨ ∃ x ∈ amounts, ¬x.IsAmount) :
    (a.sendManyAt gwei amounts addresses).Fails := by
  rcases h with hlength | ⟨x, hx, hbad⟩
  · exact .bind (Run.fails_refused (refused_checkLengths_iff.2 hlength))
  · exact (Run.onlyReads_ofResult _).bind_fails fun _ =>
      .bind (Run.fails_ofResult (mapM_ether_ne_ok hx hbad))

theorem fails_sendMany {amounts : List Binary64} {addresses : List Address}
    (h : amounts.length ≠ addresses.length ∨ ∃ x ∈ amounts, ¬x.IsAmount) :
    (a.sendMany amounts addresses).Fails :=
  (Run.onlyReads_ofResult _).bind_fails fun _ =>
    a.client.admits_recommendedGasPrice.reads.bind_fails fun _ => a.fails_sendManyAt h

/-- At an invalid price a batch only reads, and every transfer of it is refused. -/
theorem sendManyAt_of_invalid_price {gwei : Binary64} (h : ¬gwei.IsAmount)
    (amounts : List Binary64) (addresses : List Address) :
    (a.sendManyAt gwei amounts addresses).OnlyReads ∧
      (a.sendManyAt gwei amounts addresses).Returns fun results => ∀ r ∈ results, r.Refused := by
  have hreads (nonce : UInt64) (transfers : List (Word × Address)) :
      (liftM (a.sendEach gwei nonce transfers) : Run _).OnlyReads := fun s => by
    obtain ⟨results, hrun, -⟩ := a.run_sendEach_of_invalid h nonce transfers s
    exact .of_eq (by rw [Run.outcome_lift, hrun])
  have hreturns (nonce : UInt64) (transfers : List (Word × Address)) :
      (liftM (a.sendEach gwei nonce transfers) : Run _).Returns fun results =>
        ∀ r ∈ results, r.Refused := fun s results hresults => by
    obtain ⟨results', hrun, -, hrefused⟩ := a.run_sendEach_of_invalid h nonce transfers s
    rw [Run.outcome_lift, hrun] at hresults
    cases hresults
    exact hrefused
  constructor
  · exact .bind (Run.onlyReads_ofResult _) fun _ => .bind (Run.onlyReads_ofResult _) fun wei =>
      .bind a.heard_minedNonce.reads fun nonce => hreads nonce _
  · exact .bind fun _ => .bind fun wei => .bind fun nonce => hreturns nonce _

/-! ## What is refused at once -/

/-- **Which invalid input is refused before anything has happened**, whatever nodes, feeds,
    interfaces and signers would say. Composing refuses all of it. Of the orders it is those that
    look at their numbers before they read, of the batches those whose first amount that cannot be
    converted is none; without a price a batch asks for one before. All other invalid input fails
    too, or every transfer of it does, and nothing is signed or sent; but nodes may be asked first,
    and it may be their failure that is told. -/
theorem refuses_at_once_iff (a : Account) (s : Session) :
    (∀ o : Order, (a.carryOut o).Refuses s ↔ o.RefusedAtOnce) ∧
    (∀ o : Order, o.Invalid → (a.carryOut o).Fails) ∧
    (∀ gwei amounts addresses, (a.sendManyAt gwei amounts addresses).Refuses s ↔
      amounts.length ≠ addresses.length ∨ InvalidFirst amounts) ∧
    (∀ amounts addresses, (a.sendMany amounts addresses).Refuses s ↔
      amounts.length ≠ addresses.length ∨ InvalidFirst amounts ∧ ∃ gwei s',
        a.client.recommendedGasPrice.outcome s = (.ok gwei, s') ∧ s'.events = s.events) ∧
    (∀ gwei amounts addresses,
      (amounts.length ≠ addresses.length ∨ ∃ x ∈ amounts, ¬x.IsAmount) →
        (a.sendManyAt gwei amounts addresses).Fails ∧ (a.sendMany amounts addresses).Fails) ∧
    (∀ gwei amounts addresses, ¬gwei.IsAmount →
      (a.sendManyAt gwei amounts addresses).OnlyReads ∧
        (a.sendManyAt gwei amounts addresses).Returns fun results => ∀ r ∈ results, r.Refused) ∧
    (∀ sender w, w.Invalid →
      ∃ e, (a.client.compose sender w).outcome s = (.error (.validation e), s)) := by
  refine ⟨fun o => a.refuses_carryOut_iff o s, fun o => a.fails_carryOut, ?_, ?_, ?_, ?_, ?_⟩
  · exact fun gwei amounts addresses => a.refuses_sendManyAt_iff
  · exact fun amounts addresses => a.refuses_sendMany_iff
  · exact fun gwei amounts addresses h => ⟨a.fails_sendManyAt h, a.fails_sendMany h⟩
  · exact fun gwei amounts addresses h => a.sendManyAt_of_invalid_price h amounts addresses
  · exact fun sender w h => a.client.compose_refuses h sender s

/-- An account that reads from one node, which is down. -/
def cutOff : Account where
  signer := ⟨.zero, fun tx => .ok ⟨tx, none, ⟨1, 1, false⟩⟩⟩
  client := .ofSorted [⟨"a", fun _ _ => ⟨0, some (.error (.provider "a" "down"))⟩⟩]
    (List.pairwise_singleton _ _)
  broadcaster := ⟨[], 4000⟩

/-- Minus one is neither an amount nor a price. -/
def minusOne : Binary64 := ⟨0xBFF0000000000000⟩

theorem not_isAmount_minusOne : ¬minusOne.IsAmount := by decide +kernel

/-- A negative amount is refused at once, also as the second one of a batch; a negative price at
    which all is sent is a failure at least. -/
theorem refuses_at_once_iff_of_minusOne :
    (cutOff.carryOut (.ether minusOne .zero)).Refuses .start ∧
      (cutOff.sendManyAt (.zero false) [.zero false, minusOne] [.zero, .zero]).Refuses .start ∧
      (cutOff.carryOut (.allAt minusOne .zero)).Fails := by
  obtain ⟨horder, hinvalid, hbatch, -⟩ := refuses_at_once_iff cutOff .start
  refine ⟨(horder _).2 not_isAmount_minusOne, (hbatch ..).2 (Or.inr ?_),
    hinvalid _ ⟨_, .head _, not_isAmount_minusOne⟩⟩
  refine ⟨[.zero false], minusOne, [], rfl, fun y hy => ?_, not_isAmount_minusOne⟩
  rw [List.mem_singleton.1 hy]
  exact ⟨0, by decide +kernel⟩

/-- Sending all there is at a price of minus one asks a node for a nonce first; as the node is
    down, this is what is told. -/
theorem sendAllAt_asks_first :
    let o : Order := .allAt minusOne .zero
    o.Invalid ∧ ¬(cutOff.carryOut o).Refuses .start ∧
      (∃ errors, ((cutOff.carryOut o).outcome .start).1 =
        .error (.aggregate "get_mined_nonce" errors)) ∧
      ((cutOff.carryOut o).outcome .start).2.asked = [("a", .nonce .zero .mined)] := by
  intro o
  have hnonce : (cutOff.minedNonce.outcome .start).1 = .error (.aggregate "get_mined_nonce"
      (NameMap.empty.insert "a" "down")) := by
    obtain ⟨ds, hds, h⟩ := cutOff.client.ask_delivers (.nonce .zero .mined) (fun _ => true)
      (Delivery.race "get_mined_nonce") .start
    exact h.trans (by rw [List.perm_singleton.1 hds]; rfl)
  have horder : (cutOff.carryOut o).outcome .start = (_, (cutOff.minedNonce.outcome .start).2) :=
    Run.outcome_bind_of_error hnonce
  rw [horder]
  refine ⟨⟨_, .head _, not_isAmount_minusOne⟩, ?_, ⟨_, rfl⟩, rfl⟩
  rintro ⟨⟨e, he⟩, -⟩
  rw [horder] at he
  cases he

end Account

end NodeFleet

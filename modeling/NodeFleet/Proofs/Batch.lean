/-
  Many transfers at once.

  * `Account.Transfers`: what one transfer of a batch comes to, with its events.
  * `Account.Batch`: what a batch comes to, at consecutive nonces; `batch_sendEach`: every batch does.
    `Batch.entry`: the entry at a place is that of the transfer at this place.
  * `Account.Entry`: what can be said of an entry of a batch.
  * `outcome_sendManyAt`: the steps in front of a batch, any of which may fail.
  * `sendManyAt_consecutive`: a batch fails before anything is signed, or every transfer of it has
    its own entry, and its nonce, value and destination are those of its place.
-/
import NodeFleet.Proofs.Transfer

namespace NodeFleet

namespace Account

variable (a : Account) (gwei : Binary64)

/-- What a transfer of a batch comes to, with the events of it. Without a gas price it fails and
    nothing happens; else its transaction is handed to the signer. -/
inductive Transfers (nonce : UInt64) (amount : Word) (to_ : Address) :
    Result Sent → List Stamped → Prop
  | unpriced (reason : AmountError) (hprice : Units.gweiToWeiPrice gwei = .error reason)
      (e : Error) : Transfers nonce amount to_ (.error e) []
  | handed (price : BitVec 128) (hprice : Units.gweiToWeiPrice gwei = .ok price)
      (r : Result Sent) (trace : List Stamped)
      (h : a.Handed (transfer nonce price amount to_) r trace) :
      Transfers nonce amount to_ r trace

/-- What a batch comes to that begins at a nonce: an entry for each transfer, with its events. -/
inductive Batch : UInt64 → List (Word × Address) → List (Result Sent) → List (List Stamped) → Prop
  | nil (nonce : UInt64) : Batch nonce [] [] []
  | cons {nonce : UInt64} {amount : Word} {to_ : Address} {r : Result Sent}
      {trace : List Stamped} {transfers : List (Word × Address)} {results : List (Result Sent)}
      {traces : List (List Stamped)} (head : a.Transfers gwei nonce amount to_ r trace)
      (tail : Batch (nonce + 1) transfers results traces) :
      Batch nonce ((amount, to_) :: transfers) (r :: results) (trace :: traces)

theorem transfers_sendWei (nonce : UInt64) (amount : Word) (to_ : Address) (s : Session) :
    ∃ r t trace, (a.sendWei nonce gwei amount to_).outcome s = (r, t) ∧
      t.events = s.events ++ trace ∧ a.Transfers gwei nonce amount to_ r trace := by
  cases hprice : Units.gweiToWeiPrice gwei with
  | error reason =>
    obtain ⟨e, he⟩ := a.outcome_sendWei_of_error hprice nonce amount to_ s
    exact ⟨_, s, [], he, (List.append_nil _).symm, .unpriced reason hprice e⟩
  | ok price =>
    obtain ⟨r, t, trace, hsigned, hevents, hhanded⟩ :=
      a.handed_signAndSend (transfer nonce price amount to_) s
    exact ⟨r, t, trace, (a.outcome_sendWei hprice s).trans hsigned, hevents,
      .handed price hprice r trace hhanded⟩

/-- **Every batch is its transfers one after the other**, whatever comes of each. -/
theorem batch_sendEach (nonce : UInt64) (transfers : List (Word × Address))
    (s : Session) :
    ∃ results t traces, (a.sendEach gwei nonce transfers).run s = (results, t) ∧
      t.events = s.events ++ traces.flatten ∧ a.Batch gwei nonce transfers results traces := by
  induction transfers generalizing nonce s with
  | nil => exact ⟨[], s, [], rfl, (List.append_nil _).symm, .nil nonce⟩
  | cons head rest ih =>
    obtain ⟨amount, to_⟩ := head
    obtain ⟨r, s', trace, hsent, hevents, hhead⟩ :=
      a.transfers_sendWei gwei nonce amount to_ s
    obtain ⟨results, t, traces, hrun, hrest, htail⟩ := ih (nonce + 1) s'
    refine ⟨r :: results, t, trace :: traces, ?_, ?_, .cons hhead htail⟩
    · rw [run_sendEach_cons, hsent]
      simp only [hrun]
    · rw [hrest, hevents, List.flatten_cons, List.append_assoc]

variable {a gwei} {nonce : UInt64} {amount : Word} {to_ : Address}

/-- What can be said of an entry of a batch. -/
structure Entry (a : Account) (gwei : Binary64) (nonce : UInt64) (amount : Word) (to_ : Address)
    (r : Result Sent) (trace : List Stamped) : Prop where
  /-- Without a gas price there is only the failure. -/
  unpriced : ∀ reason, Units.gweiToWeiPrice gwei = .error reason → trace = [] ∧ ∃ e, r = .error e
  /-- Whatever comes of it, the signer is asked for the transaction of this place. -/
  asks : ∀ price, Units.gweiToWeiPrice gwei = .ok price →
    trace.head?.map (·.event) = some (.signatureAsked (transfer nonce price amount to_))
  /-- An entry that succeeds was signed, and sent once to every node. -/
  sent : ∀ sent, r = .ok sent → ∃ price now,
    a.signer.sign (transfer nonce price amount to_) = .ok sent.transaction ∧
    (a.signer.Faithful → sent.transaction.unsigned = transfer nonce price amount to_) ∧
    trace = ⟨now, .signatureAsked (transfer nonce price amount to_)⟩ ::
      a.broadcaster.nodes.map (⟨now, .asked ·.name (.sendRaw sent.transaction.encoded)⟩)
  /-- An entry that fails has sent nothing; if there is a gas price, it is the signer who refused. -/
  failed : ∀ e, r = .error e → (∀ x ∈ trace, x.event.isSending = false) ∧
    ∀ price, Units.gweiToWeiPrice gwei = .ok price →
      a.signer.sign (transfer nonce price amount to_) = .error e

theorem Transfers.isEntry {r : Result Sent} {trace : List Stamped}
    (h : a.Transfers gwei nonce amount to_ r trace) : a.Entry gwei nonce amount to_ r trace := by
  cases h with
  | unpriced reason hprice e =>
    have hnone (price : BitVec 128) : Units.gweiToWeiPrice gwei ≠ .ok price := by simp [hprice]
    refine ⟨fun _ _ => ⟨rfl, e, rfl⟩, fun price h => absurd h (hnone price), ?_, ?_⟩
    · rintro sent ⟨⟩
    · exact fun _ _ => ⟨by simp, fun price h => absurd h (hnone price)⟩
  | handed price hprice _ _ hhanded =>
    have hsame {price' : BitVec 128} (h : Units.gweiToWeiPrice gwei = .ok price') :
        price = price' := Except.ok.inj (hprice.symm.trans h)
    refine ⟨fun reason h => ?_, fun price' h => ?_, ?_, ?_⟩
    · rw [hprice] at h
      cases h
    · obtain rfl := hsame h
      cases hhanded <;> rfl
    · rintro sent rfl
      cases hhanded with
      | sent now _ hsign => exact ⟨price, now, hsign, fun h => h _ _ hsign, rfl⟩
    · rintro e rfl
      cases hhanded with
      | refused now _ hsign =>
        exact ⟨by simp [Event.isSending], fun price' h => hsame h ▸ hsign⟩

namespace Batch

variable {transfers : List (Word × Address)} {results : List (Result Sent)}
  {traces : List (List Stamped)}

theorem length_eq (h : a.Batch gwei nonce transfers results traces) :
    results.length = transfers.length ∧ traces.length = transfers.length := by
  induction h with
  | nil => exact ⟨rfl, rfl⟩
  | cons head tail ih => simp [ih]

/-- **The entry at a place is that of the transfer at this place**, at the nonce of this place. -/
theorem entry (h : a.Batch gwei nonce transfers results traces) {i : ℕ} {amount : Word}
    {to_ : Address} (hi : transfers[i]? = some (amount, to_)) :
    ∃ r trace, results[i]? = some r ∧ traces[i]? = some trace ∧
      a.Transfers gwei (nonce + .ofNat i) amount to_ r trace := by
  induction h generalizing i with
  | nil => cases hi
  | @cons nonce _ _ r trace _ _ _ head tail ih =>
    cases i with
    | zero =>
      cases hi
      exact ⟨r, trace, rfl, rfl, (UInt64.add_zero nonce).symm ▸ head⟩
    | succ i =>
      obtain ⟨r, trace, hr, htrace, hentry⟩ := ih hi
      have hnonce : nonce + 1 + UInt64.ofNat i = nonce + UInt64.ofNat (i + 1) := by
        rw [UInt64.ofNat_add, UInt64.add_assoc, UInt64.add_comm 1]
        rfl
      exact ⟨r, trace, hr, htrace, hnonce ▸ hentry⟩

end Batch

/-! ## In front of a batch -/

variable {amounts : List Binary64} {addresses : List Address} {wei : List Word} {s s' : Session}

variable (a) in
/-- Lengths, amounts and nonce come first, in this order. -/
theorem outcome_sendManyAt (gwei : Binary64) (amounts : List Binary64) (addresses : List Address)
    (s : Session) :
    (a.sendManyAt gwei amounts addresses).outcome s =
      match checkLengths amounts addresses, amounts.mapM ether, a.minedNonce.outcome s with
      | .error e, _, _ => (.error (.validation e), s)
      | .ok _, .error e, _ => (.error e, s)
      | .ok _, .ok _, (.error e, s') => (.error e, s')
      | .ok _, .ok wei, (.ok nonce, s') =>
        let batch := (a.sendEach gwei nonce (wei.zip addresses)).run s'
        (.ok batch.1, batch.2) := by
  simp only [sendManyAt, Run.outcome_bind, Run.outcome_ofResult]
  cases checkLengths amounts addresses with
  | error e => rfl
  | ok _ =>
    cases amounts.mapM ether with
    | error e => rfl
    | ok wei =>
      rcases hnonce : a.minedNonce.outcome s with ⟨e | nonce, s'⟩
      · simp only [Except.mapError, hnonce]
      · simp only [Except.mapError, hnonce]
        rfl

theorem getElem?_of_mapM_ether (h : amounts.mapM ether = .ok wei) {i : ℕ} {x : Binary64}
    (hx : amounts[i]? = some x) : ∃ w, wei[i]? = some w ∧ Units.ethToWei x = .ok w := by
  obtain ⟨hi, rfl⟩ := List.getElem?_eq_some_iff.1 hx
  have hall := mapM_ether_eq_ok_iff.1 h
  have hi' : i < wei.length := hall.length_eq ▸ hi
  exact ⟨wei[i], List.getElem?_eq_getElem hi', ether_eq_ok_iff.1 (hall.get hi hi')⟩

theorem toNat_place {nonce : UInt64} {n i : ℕ} (hlast : nonce.toNat + n ≤ 2 ^ 64) (hi : i < n) :
    (nonce + .ofNat i).toNat = nonce.toNat + i := by
  rw [UInt64.toNat_add, UInt64.toNat_ofNat_of_lt' (by simp [UInt64.size]; omega),
    Nat.mod_eq_of_lt (by omega)]

/-- **A batch fails before anything is signed, or each of its transfers has its own entry.** It
    fails as a whole if the lengths differ, if any amount is none, or if the nonce cannot be read;
    then nothing but reads has happened. Else the nonce is read once, and there is an entry for
    each address: while nonces last, that at a place is handed to the signer at the nonce of this
    place, with the amount and the address of this place, whatever comes of the others. -/
theorem sendManyAt_consecutive (a : Account) (gwei : Binary64) (amounts : List Binary64)
    (addresses : List Address) (s : Session) :
    (∃ e t, (a.sendManyAt gwei amounts addresses).outcome s = (.error e, t) ∧ s.ReadsTo t ∧
      (amounts.length ≠ addresses.length ∨ (∃ x ∈ amounts, ∀ w, Units.ethToWei x ≠ .ok w) ∨
        ∃ reason t', a.minedNonce.outcome s = (.error reason, t'))) ∨
    ∃ results t nonce s', ∃ traces : List (List Stamped),
      (a.sendManyAt gwei amounts addresses).outcome s = (.ok results, t) ∧
      amounts.length = addresses.length ∧ (∀ x ∈ amounts, ∃ w, Units.ethToWei x = .ok w) ∧
      a.minedNonce.outcome s = (.ok nonce, s') ∧
      s'.events = s.events ++
        a.client.nodes.keys.map (⟨s.now, .asked · (.nonce a.address .mined)⟩) ∧
      t.events = s'.events ++ traces.flatten ∧
      results.length = addresses.length ∧ traces.length = addresses.length ∧
      (nonce.toNat + addresses.length ≤ 2 ^ 64 →
        ∀ i x to_, amounts[i]? = some x → addresses[i]? = some to_ →
          ∃ place w r trace, place.toNat = nonce.toNat + i ∧ Units.ethToWei x = .ok w ∧
            results[i]? = some r ∧ traces[i]? = some trace ∧ a.Entry gwei place w to_ r trace) := by
  have houtcome := a.outcome_sendManyAt gwei amounts addresses s
  by_cases hlength : amounts.length = addresses.length
  case neg =>
    rw [checkLengths, if_neg hlength] at houtcome
    exact Or.inl ⟨_, s, houtcome, .of_eq rfl, Or.inl hlength⟩
  rw [checkLengths, if_pos hlength] at houtcome
  cases hwei : amounts.mapM ether with
  | error e =>
    rw [hwei] at houtcome
    obtain ⟨x, hx, hbad⟩ := exists_mem_of_mapM_ether_eq_error hwei
    exact Or.inl ⟨e, s, houtcome, .of_eq rfl,
      Or.inr (Or.inl ⟨x, hx, fun w hw => hbad w (ether_eq_ok_iff.2 hw)⟩)⟩
  | ok wei =>
    have hreads := a.heard_minedNonce.reads s
    have hasked := a.client.events_ask (.nonce a.address .mined) (fun _ => true)
      (Delivery.race "get_mined_nonce") s
    rcases hnonce : a.minedNonce.outcome s with ⟨e | nonce, s'⟩
    · rw [hwei, hnonce] at houtcome
      rw [hnonce] at hreads
      exact Or.inl ⟨e, s', houtcome, hreads, Or.inr (Or.inr ⟨e, s', rfl⟩)⟩
    · obtain ⟨results, t, traces, hrun, hevents, hbatch⟩ :=
        a.batch_sendEach gwei nonce (wei.zip addresses) s'
      have hsame : wei.length = addresses.length :=
        (mapM_ether_eq_ok_iff.1 hwei).length_eq.symm.trans hlength
      have hzip : (wei.zip addresses).length = addresses.length := by
        rw [List.length_zip, hsame, Nat.min_self]
      rw [hwei, hnonce] at houtcome
      simp only [hrun] at houtcome
      refine Or.inr ⟨results, t, nonce, s', traces, houtcome, hlength, fun x hx => ?_, rfl, ?_,
        hevents, hbatch.length_eq.1.trans hzip, hbatch.length_eq.2.trans hzip,
        fun hlast i x to_ hx hto => ?_⟩
      · obtain ⟨w, hw⟩ := exists_ether_of_mem hwei hx
        exact ⟨w, ether_eq_ok_iff.1 hw⟩
      · rw [← hasked]
        exact congrArg (·.2.events) hnonce.symm
      · obtain ⟨w, hw, hx⟩ := getElem?_of_mapM_ether hwei hx
        obtain ⟨r, trace, hr, htrace, hentry⟩ :=
          hbatch.entry (List.getElem?_zip_eq_some.2 ⟨hw, hto⟩)
        have hi : i < addresses.length := (List.getElem?_eq_some_iff.1 hto).1
        exact ⟨_, w, r, trace, toNat_place hlast hi, hx, hr, htrace, hentry.isEntry⟩

/-- Of two transfers the first is refused by the signer; the second is signed at the nonce behind
    it all the same. -/
theorem sendManyAt_consecutive_of_two :
    let sign : UnsignedTransaction → Result SignedTransaction := fun tx =>
      if tx.nonce = 7 then .error (.signer (.other "locked")) else signAnything tx
    let a := told sign 7 0
    ∃ e sent t, (a.sendManyAt (.zero false) [.zero false, .zero false] [.zero, .zero]).outcome
        .start = (.ok [.error e, .ok sent], t) ∧
      sent.transaction.unsigned.nonce = 8 := by
  intro sign a
  have hfaithful : a.signer.Faithful := by
    intro tx signed h
    simp only [a, told, sign] at h
    split at h <;> cases h
    rfl
  obtain ⟨s', hnonce⟩ := minedNonce_told sign 7 0 .start
  have hzero : Units.ethToWei (.zero false) = .ok 0 := by decide +kernel
  have hprice : Units.gweiToWeiPrice (.zero false) = .ok 0 := by decide +kernel
  rcases sendManyAt_consecutive a (.zero false) [.zero false, .zero false] [.zero, .zero] .start with
    ⟨e, t, -, -, hlength | ⟨x, hx, hbad⟩ | ⟨e', t', hfails⟩⟩ |
    ⟨results, t, nonce, s'', traces, houtcome, -, -, hread, -, -, hresults, -, hentries⟩
  · exact absurd rfl hlength
  · simp only [List.mem_cons, List.not_mem_nil, or_false, or_self] at hx
    exact absurd hzero (hx ▸ hbad 0)
  · cases hnonce.symm.trans hfails
  · cases hnonce.symm.trans hread
    obtain ⟨place, w, r, trace, hplace, -, hr, -, hentry⟩ := hentries (by decide) 0 _ _ rfl rfl
    obtain ⟨place', w', r', trace', hplace', -, hr', -, hentry'⟩ :=
      hentries (by decide) 1 _ _ rfl rfl
    obtain rfl : place = 7 := UInt64.toNat_inj.1 hplace
    obtain rfl : place' = 8 := UInt64.toNat_inj.1 hplace'
    obtain ⟨r, r', rfl⟩ : ∃ r r', results = [r, r'] := List.length_eq_two.1 hresults
    cases hr
    cases hr'
    cases r with
    | ok sent =>
      obtain ⟨price, now, hsign, -⟩ := hentry.sent sent rfl
      cases hsign
    | error e =>
      cases r' with
      | error e' => cases (hentry'.failed e' rfl).2 0 hprice
      | ok sent =>
        obtain ⟨price, now, -, hunsigned, -⟩ := hentry'.sent sent rfl
        exact ⟨e, sent, t, houtcome, by rw [hunsigned hfaithful]; rfl⟩

end Account

end NodeFleet

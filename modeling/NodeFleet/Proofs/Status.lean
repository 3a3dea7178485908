/-
  The state of a hash, as the look-ups of a client tell it.

  * `TxInfo.ofLookups`: what two look-ups say of a hash; `txInfo_fst`: a client says just that.
  * `Client.Reads`: what reading the state of a hash can come to, whatever order the results of
    its look-ups are delivered in. `statusReader_reads`: the reader of a client is one case, the
    order of time.
  * `Reads.not_hears`, `Reads.hears_mined`: what a state says of the nodes.
-/
import NodeFleet.Proofs.Race
import NodeFleet.Watch

namespace NodeFleet

/-- What the look-up of a transaction and the look-up of its receipt say of a hash. -/
def TxInfo.ofLookups (transaction : Result (Option ChainTransaction))
    (receipt : Result (Option Receipt)) : TxInfo :=
  match transaction with
  | .error e => .error e.message
  | .ok none => .notFound
  | .ok (some tx) =>
    if tx.isPending then .pending tx
    else
      match receipt with
      | .ok (some receipt) => .mined tx receipt
      | _ => .pending tx

namespace TxInfo

variable {tx : ChainTransaction} {looked : Result (Option ChainTransaction)}
  {received : Result (Option Receipt)}

/-- A transaction that is found is pending, or mined with the receipt that is found. -/
theorem ofLookups_found (tx : ChainTransaction) (received : Result (Option Receipt)) :
    ofLookups (.ok (some tx)) received = .pending tx ∨
      ∃ receipt, received = .ok (some receipt) ∧ tx.isPending = false ∧
        ofLookups (.ok (some tx)) received = .mined tx receipt := by
  cases hp : tx.isPending with
  | true => exact Or.inl (by simp [ofLookups, hp])
  | false =>
    rcases received with e | _ | receipt
    · exact Or.inl (by simp [ofLookups, hp])
    · exact Or.inl (by simp [ofLookups, hp])
    · exact Or.inr ⟨receipt, rfl, rfl, by simp [ofLookups, hp]⟩

theorem ofLookups_eq_mined {receipt : Receipt} (h : ofLookups looked received = .mined tx receipt) :
    looked = .ok (some tx) ∧ tx.isPending = false ∧ received = .ok (some receipt) := by
  rcases looked with e | _ | tx'
  · cases h
  · cases h
  · rcases ofLookups_found tx' received with hpending | ⟨r, hr, hp, hmined⟩
    · rw [hpending] at h
      cases h
    · rw [hmined] at h
      cases h
      exact ⟨rfl, hp, hr⟩

theorem ofLookups_ne_lost : ofLookups looked received ≠ .lost := by
  rcases looked with e | _ | tx
  · nofun
  · nofun
  · rcases ofLookups_found tx received with h | ⟨_, -, -, h⟩ <;> rw [h] <;> nofun

end TxInfo

namespace Client

/-- What reading the state of a hash can come to that begins at a moment. -/
def Reads (c : Client) (now : Millis) (hash : Hash) (reading : StatusReading) : Prop :=
  ∃ ds later rs, c.Delivers (·.serve now (.transaction hash)) ds ∧
    c.Delivers (·.serve later (.receipt hash)) rs ∧ now ≤ later ∧ later ≤ reading.time ∧
    reading.info = some (.ofLookups (Delivery.raceOptional "transaction_by_hash" ds)
      (Delivery.raceOptional "transaction_receipt" rs))

/-! ## Time passes -/

theorem le_time_of_mem_endings {nodes : List Node} {limit now : Millis} {r : Request}
    {e : Ending r.Answer} (h : e ∈ endings nodes limit now r) : now ≤ e.time := by
  obtain ⟨n, -, rfl⟩ := List.mem_map.1 (List.mem_mergeSort.1 h)
  exact Nat.le_add_right _ _

theorem le_overAt {nodes : List Node} {limit now : Millis} {r : Request}
    (wins : r.Answer → Bool) : now ≤ Ending.overAt wins now (endings nodes limit now r) := by
  unfold Ending.overAt
  split
  · next e he => exact le_time_of_mem_endings (List.mem_of_find?_eq_some he)
  · exact Ending.le_lastTime _ _

theorem le_now_ask {α : Type} (c : Client) (r : Request) (wins : r.Answer → Bool)
    (settle : List (Delivery r.Answer) → Result α) (s : Session) :
    s.now ≤ ((c.ask r wins settle).outcome s).2.now := by
  rw [outcome_ask]
  exact le_overAt wins

theorem le_now_transaction (c : Client) (hash : Hash) (s : Session) :
    s.now ≤ ((c.transaction hash).outcome s).2.now :=
  c.le_now_ask (.transaction hash) _ _ s

theorem le_now_receipt (c : Client) (hash : Hash) (s : Session) :
    s.now ≤ ((c.receipt hash).outcome s).2.now :=
  c.le_now_ask (.receipt hash) _ _ s

/-! ## What a client says -/

theorem run_txInfo (c : Client) (hash : Hash) (s : Session) :
    (c.txInfo hash).run s =
      match (c.transaction hash).outcome s with
      | (.ok (some tx), s') =>
        if tx.isPending then (.pending tx, s')
        else (.ofLookups (.ok (some tx)) ((c.receipt hash).outcome s').1,
          ((c.receipt hash).outcome s').2)
      | (looked, s') => (.ofLookups looked (.ok none), s') := by
  rw [txInfo, Session.run_bind, Run.run_attempt]
  obtain ⟨looked, s'⟩ := (c.transaction hash).outcome s
  rcases looked with e | _ | tx
  · rfl
  · rfl
  · cases hp : tx.isPending with
    | true =>
      simp only [hp, if_true]
      rfl
    | false =>
      simp only [hp, Bool.false_eq_true, if_false, Session.run_bind, Run.run_attempt,
        TxInfo.ofLookups]
      rcases (c.receipt hash).outcome s' with ⟨e | _ | r, s''⟩ <;> rfl

/-- **A client says what its two look-ups say**, the second made when the first is over. -/
theorem txInfo_fst (c : Client) (hash : Hash) (s : Session) :
    ((c.txInfo hash).run s).1 = .ofLookups ((c.transaction hash).outcome s).1
      ((c.receipt hash).outcome ((c.transaction hash).outcome s).2).1 := by
  rw [run_txInfo]
  obtain ⟨looked, s'⟩ := (c.transaction hash).outcome s
  rcases looked with e | _ | tx
  · rfl
  · rfl
  · dsimp only
    split_ifs with hp
    · simp [TxInfo.ofLookups, hp]
    · rfl

theorem now_transaction_le (c : Client) (hash : Hash) (s : Session) :
    ((c.transaction hash).outcome s).2.now ≤ ((c.txInfo hash).run s).2.now := by
  rw [run_txInfo]
  obtain ⟨looked, s'⟩ := (c.transaction hash).outcome s
  rcases looked with e | _ | tx
  · exact Nat.le_refl _
  · exact Nat.le_refl _
  · dsimp only
    split_ifs
    · exact Nat.le_refl _
    · exact c.le_now_receipt hash s'

/-- The reader of a client reads in the order of time. -/
theorem statusReader_reads (c : Client) (earlier : Nat) (now : Millis) (hash : Hash) :
    c.Reads now hash (c.statusReader earlier now hash) := by
  let s := Session.startingAt now
  exact ⟨_, ((c.transaction hash).outcome s).2.now, _, c.delivers_endings now _,
    c.delivers_endings _ _, c.le_now_transaction hash s, c.now_transaction_le hash s,
    congrArg some (c.txInfo_fst hash s)⟩

/-! ## What a state says of the nodes -/

section
variable {c : Client} {now : Millis} {hash : Hash} {reading : StatusReading} {info : TxInfo}

/-- A client always comes back. -/
theorem Reads.isSome (h : c.Reads now hash reading) : reading.info.isSome = true := by
  obtain ⟨_, _, _, -, -, -, -, hinfo⟩ := h
  rw [hinfo, Option.isSome_some]

/-- **A hash is found in error or not at all only if no node delivers its transaction.** -/
theorem Reads.not_hears (h : c.Reads now hash reading) (hinfo : reading.info = some info)
    (hstatus : info.status = .error ∨ info.status = .notFound) (tx : ChainTransaction) :
    ¬c.Hears (·.serve now (.transaction hash)) (.ok (some tx)) := by
  obtain ⟨ds, later, rs, hds, -, -, -, heq⟩ := h
  intro htx
  obtain ⟨tx', htx'⟩ := (raceOptional_isSome_iff hds "transaction_by_hash").2 ⟨tx, htx⟩
  rw [hinfo, htx', Option.some.injEq] at heq
  rcases TxInfo.ofLookups_found tx' (Delivery.raceOptional "transaction_receipt" rs) with
    hpending | ⟨receipt, -, -, hmined⟩
  · rw [heq, hpending] at hstatus
    simp [TxInfo.status] at hstatus
  · rw [heq, hmined] at hstatus
    simp only [TxInfo.status] at hstatus
    split_ifs at hstatus <;> simp at hstatus

/-- **A mined transaction was delivered with its block, and its receipt after it.** -/
theorem Reads.hears_mined (h : c.Reads now hash reading) {tx : ChainTransaction}
    {receipt : Receipt} (hinfo : reading.info = some (.mined tx receipt)) :
    tx.blockNumber.isSome ∧ c.Hears (·.serve now (.transaction hash)) (.ok (some tx)) ∧
      ∃ later, now ≤ later ∧ later ≤ reading.time ∧
        c.Hears (·.serve later (.receipt hash)) (.ok (some receipt)) := by
  obtain ⟨ds, later, rs, hds, hrs, hnow, hlater, heq⟩ := h
  rw [hinfo, Option.some.injEq] at heq
  obtain ⟨htx, hp, hreceipt⟩ := TxInfo.ofLookups_eq_mined heq.symm
  refine ⟨?_, raceOptional_hears hds htx, later, hnow, hlater, raceOptional_hears hrs hreceipt⟩
  rw [← Option.not_isNone]
  simpa [ChainTransaction.isPending] using hp

theorem Reads.ne_lost (h : c.Reads now hash reading) : reading.info ≠ some .lost := by
  obtain ⟨_, _, _, -, -, -, -, heq⟩ := h
  rw [heq]
  exact fun hlost => TxInfo.ofLookups_ne_lost (Option.some.inj hlost)

end

end Client

end NodeFleet

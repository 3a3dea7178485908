/-
  What the state of a hash says of the nodes, whatever order their answers come in.

  * `Delivery.FirstFound`: what the earliest delivery that finds anything finds.
  * `TxInfo.ofDeliveries`: the state that the deliveries of two look-ups make;
    `txInfo_deliveries`: a client tells such a state.
  * `Client.Classifies`: what each of the states, and whatever it carries, says of the nodes.
  * `txInfo_classified`: every state that a client can tell says just that. If the nodes agree on
    what they find, it does not depend on the order of their answers.
-/
import NodeFleet.Proofs.Status

namespace NodeFleet

namespace TxInfo

/-! ## States and their look-ups -/

section
variable {looked : Result (Option ChainTransaction)} {received : Result (Option Receipt)}

theorem ofLookups_eq_error_iff {text : String} :
    ofLookups looked received = .error text ↔ ∃ e, looked = .error e ∧ e.message = text := by
  rcases looked with e | _ | tx
  · simp [ofLookups]
  · simp [ofLookups]
  · rcases ofLookups_found tx received with h | ⟨r, -, -, h⟩ <;> simp [h]

theorem ofLookups_eq_notFound_iff :
    ofLookups looked received = .notFound ↔ looked = .ok none := by
  rcases looked with e | _ | tx
  · simp [ofLookups]
  · simp [ofLookups]
  · rcases ofLookups_found tx received with h | ⟨r, -, -, h⟩ <;> simp [h]

theorem ofLookups_eq_mined_iff {tx : ChainTransaction} {receipt : Receipt} :
    ofLookups looked received = .mined tx receipt ↔
      looked = .ok (some tx) ∧ tx.isPending = false ∧ received = .ok (some receipt) :=
  ⟨ofLookups_eq_mined, fun ⟨hlooked, hp, hreceived⟩ => by
    simp [ofLookups, hlooked, hp, hreceived]⟩

/-- A transaction that is found is pending unless it is mined. -/
theorem ofLookups_eq_pending_iff {tx : ChainTransaction} :
    ofLookups looked received = .pending tx ↔
      looked = .ok (some tx) ∧
        ¬(tx.isPending = false ∧ ∃ receipt, received = .ok (some receipt)) := by
  rcases looked with e | _ | tx'
  · simp [ofLookups]
  · simp [ofLookups]
  · by_cases hmined : tx'.isPending = false ∧ ∃ receipt, received = .ok (some receipt)
    · obtain ⟨hp, receipt, rfl⟩ := hmined
      have h : ofLookups (.ok (some tx')) (.ok (some receipt)) = .mined tx' receipt := by
        simp [ofLookups, hp]
      rw [h]
      refine iff_of_false (by simp) ?_
      rintro ⟨htx, hnot⟩
      cases htx
      exact hnot ⟨hp, receipt, rfl⟩
    · rcases ofLookups_found tx' received with h | ⟨receipt, hr, hp, -⟩
      · rw [h]
        constructor
        · intro heq
          cases heq
          exact ⟨rfl, hmined⟩
        · rintro ⟨htx, -⟩
          cases htx
          rfl
      · exact absurd ⟨hp, receipt, hr⟩ hmined

end

/-! ## What a state carries -/

section
variable {info : TxInfo}

theorem transaction?_eq_some_iff {tx : ChainTransaction} :
    info.transaction? = some tx ↔ info = .pending tx ∨ ∃ receipt, info = .mined tx receipt := by
  cases info <;> simp [transaction?]

theorem receipt?_eq_some_iff {receipt : Receipt} :
    info.receipt? = some receipt ↔ ∃ tx, info = .mined tx receipt := by
  cases info <;> simp [receipt?]

theorem status_eq_error_iff : info.status = .error ↔ ∃ text, info = .error text := by
  cases info with
  | mined tx receipt => rw [status]; split_ifs <;> simp
  | error | notFound | lost | pending => simp [status]

theorem status_eq_notFound_iff : info.status = .notFound ↔ info = .notFound := by
  cases info with
  | mined tx receipt => rw [status]; split_ifs <;> simp
  | error | notFound | lost | pending => simp [status]

theorem status_eq_pending_iff : info.status = .pending ↔ ∃ tx, info = .pending tx := by
  cases info with
  | mined tx receipt => rw [status]; split_ifs <;> simp
  | error | notFound | lost | pending => simp [status]

theorem status_eq_reverted_iff :
    info.status = .reverted ↔ ∃ tx receipt, info = .mined tx receipt ∧
      receipt.status = .failure := by
  cases info with
  | mined tx receipt =>
    rw [status]
    split_ifs with h <;> simp [h]
  | error | notFound | lost | pending => simp [status]

theorem status_eq_done_iff :
    info.status = .done ↔ ∃ tx receipt, info = .mined tx receipt ∧
      (receipt.status = .success ∨ ∃ root, receipt.status = .postState root) := by
  cases info with
  | mined tx receipt =>
    rw [status]
    rcases h : receipt.status with _ | _ | root <;> simp [h]
  | error | notFound | lost | pending => simp [status]

end

/-! ## States and deliveries -/

/-- The state that the deliveries of two look-ups make. -/
def ofDeliveries (ds : List (Delivery (Option ChainTransaction)))
    (rs : List (Delivery (Option Receipt))) : TxInfo :=
  .ofLookups (Delivery.raceOptional "transaction_by_hash" ds)
    (Delivery.raceOptional "transaction_receipt" rs)

/-- Of the second look-up only what it finds matters. -/
theorem ofLookups_congr {looked : Result (Option ChainTransaction)}
    {received received' : Result (Option Receipt)}
    (h : ∀ receipt, received = .ok (some receipt) ↔ received' = .ok (some receipt)) :
    ofLookups looked received = ofLookups looked received' := by
  by_cases hfound : ∃ receipt, received = .ok (some receipt)
  · obtain ⟨receipt, hr⟩ := hfound
    rw [hr, (h receipt).1 hr]
  · have hfound' : ¬∃ receipt, received' = .ok (some receipt) := by simpa only [h] using hfound
    rcases looked with e | _ | tx
    · rfl
    · rfl
    · rw [ofLookups_eq_pending_iff.2 ⟨rfl, fun hp => hfound hp.2⟩,
        ofLookups_eq_pending_iff.2 ⟨rfl, fun hp => hfound' hp.2⟩]

end TxInfo

/-- The earliest delivery that finds anything finds this. -/
def Delivery.FirstFound {α : Type} (ds : List (Delivery (Option α))) (a : α) : Prop :=
  ∃ before d after, ds = before ++ d :: after ∧ d.result = .ok (some a) ∧
    ∀ b ∈ before, ∀ w, b.result ≠ .ok (some w)

section
variable {α : Type} {c : Client} {attempt attempt' : Node → Attempt (Option α)}
  {ds ds' : List (Delivery (Option α))} {operation : String}

theorem raceOptional_eq_some_iff_firstFound {a : α} :
    Delivery.raceOptional operation ds = .ok (some a) ↔ Delivery.FirstFound ds a :=
  raceOptional_eq_some_iff

theorem exists_firstFound_iff (h : c.Delivers attempt ds) :
    (∃ a, Delivery.FirstFound ds a) ↔ ∃ a, c.Hears attempt (.ok (some a)) := by
  rw [← raceOptional_isSome_iff h ""]
  exact exists_congr fun a => raceOptional_eq_some_iff_firstFound.symm

/-- Nodes that agree on what they find make any two look-ups find it. -/
theorem raceOptional_eq_some_of_agree (h : c.Delivers attempt ds) (h' : c.Delivers attempt' ds')
    (hagree : ∀ a a', c.Hears attempt (.ok (some a)) → c.Hears attempt' (.ok (some a')) → a = a')
    (hfound : (∃ a, c.Hears attempt (.ok (some a))) → ∃ a, c.Hears attempt' (.ok (some a)))
    {a : α} (ha : Delivery.raceOptional operation ds = .ok (some a)) :
    Delivery.raceOptional operation ds' = .ok (some a) := by
  have hears := raceOptional_hears h ha
  obtain ⟨a', ha'⟩ := (raceOptional_isSome_iff h' operation).2 (hfound ⟨a, hears⟩)
  rw [hagree a a' hears (raceOptional_hears h' ha'), ha']

/-- **Nodes that agree on what they find make a look-up whose order leaves no trace.** -/
theorem raceOptional_eq_of_agree (h : c.Delivers attempt ds) (h' : c.Delivers attempt ds')
    (hagree : ∀ a a', c.Hears attempt (.ok (some a)) → c.Hears attempt (.ok (some a')) → a = a') :
    Delivery.raceOptional operation ds = Delivery.raceOptional operation ds' := by
  rcases hlooked : Delivery.raceOptional operation ds with e | _ | a
  · exact ((raceOptional_eq_error_iff h').2 ((raceOptional_eq_error_iff h).1 hlooked)).symm
  · exact ((raceOptional_eq_none_iff h').2 ((raceOptional_eq_none_iff h).1 hlooked)).symm
  · exact (raceOptional_eq_some_of_agree h h' hagree id hlooked).symm

end

theorem ChainTransaction.isPending_eq_false_iff {tx : ChainTransaction} :
    tx.isPending = false ↔ tx.blockNumber.isSome = true := by
  rw [isPending, ← Option.not_isSome, Bool.not_eq_false']

namespace Client

/-! ## What a state says -/

/-- What a state, and all that it carries, says of the deliveries of two look-ups. -/
structure Classifies (c : Client) (lookup : Node → Attempt (Option ChainTransaction))
    (fetch : Node → Attempt (Option Receipt)) (ds : List (Delivery (Option ChainTransaction)))
    (rs : List (Delivery (Option Receipt))) (info : TxInfo) : Prop where
  /-- Nobody answers. -/
  error : info.status = .error ↔ ∀ o, ¬c.Hears lookup (.ok o)
  /-- Nobody finds the transaction, and somebody says so. -/
  notFound : info.status = .notFound ↔
    (∀ tx, ¬c.Hears lookup (.ok (some tx))) ∧ c.Hears lookup (.ok none)
  /-- The transaction has no block, or nobody finds the receipt. -/
  pending : info.status = .pending ↔ ∃ tx, Delivery.FirstFound ds tx ∧
    ¬(tx.blockNumber.isSome = true ∧ ∃ receipt, c.Hears fetch (.ok (some receipt)))
  reverted : info.status = .reverted ↔ ∃ tx receipt, Delivery.FirstFound ds tx ∧
    tx.blockNumber.isSome = true ∧ Delivery.FirstFound rs receipt ∧ receipt.status = .failure
  done : info.status = .done ↔ ∃ tx receipt, Delivery.FirstFound ds tx ∧
    tx.blockNumber.isSome = true ∧ Delivery.FirstFound rs receipt ∧
      (receipt.status = .success ∨ ∃ root, receipt.status = .postState root)
  ne_lost : info.status ≠ .lost
  text : ∀ text, info.error? = some text ↔ (∀ o, ¬c.Hears lookup (.ok o)) ∧
    text = (Error.aggregate "transaction_by_hash" (c.causes lookup)).message
  /-- The earliest transaction is carried whenever one is found. -/
  transaction : ∀ tx, info.transaction? = some tx ↔ Delivery.FirstFound ds tx
  /-- A receipt is carried with a transaction that has a block. -/
  receipt : ∀ receipt, info.receipt? = some receipt ↔ ∃ tx, Delivery.FirstFound ds tx ∧
    tx.blockNumber.isSome = true ∧ Delivery.FirstFound rs receipt
  mined : info.receipt?.isSome = true ↔ info.status = .done ∨ info.status = .reverted

section
variable {c : Client} {lookup : Node → Attempt (Option ChainTransaction)}
  {fetch : Node → Attempt (Option Receipt)} {ds : List (Delivery (Option ChainTransaction))}
  {rs : List (Delivery (Option Receipt))}

theorem Delivers.ofDeliveries_eq_error_iff (hds : c.Delivers lookup ds) {text : String} :
    TxInfo.ofDeliveries ds rs = .error text ↔ (∀ o, ¬c.Hears lookup (.ok o)) ∧
      text = (Error.aggregate "transaction_by_hash" (c.causes lookup)).message := by
  simp only [TxInfo.ofDeliveries, TxInfo.ofLookups_eq_error_iff, raceOptional_eq_error_iff hds]
  constructor
  · rintro ⟨_, ⟨hnone, rfl⟩, rfl⟩
    exact ⟨hnone, rfl⟩
  · rintro ⟨hnone, rfl⟩
    exact ⟨_, ⟨hnone, rfl⟩, rfl⟩

theorem Delivers.ofDeliveries_eq_notFound_iff (hds : c.Delivers lookup ds) :
    TxInfo.ofDeliveries ds rs = .notFound ↔
      (∀ tx, ¬c.Hears lookup (.ok (some tx))) ∧ c.Hears lookup (.ok none) := by
  rw [TxInfo.ofDeliveries, TxInfo.ofLookups_eq_notFound_iff, raceOptional_eq_none_iff hds]

theorem ofDeliveries_eq_mined_iff {tx : ChainTransaction} {receipt : Receipt} :
    TxInfo.ofDeliveries ds rs = .mined tx receipt ↔ Delivery.FirstFound ds tx ∧
      tx.blockNumber.isSome = true ∧ Delivery.FirstFound rs receipt := by
  rw [TxInfo.ofDeliveries, TxInfo.ofLookups_eq_mined_iff, raceOptional_eq_some_iff_firstFound,
    raceOptional_eq_some_iff_firstFound, ChainTransaction.isPending_eq_false_iff]

theorem Delivers.ofDeliveries_eq_pending_iff (hrs : c.Delivers fetch rs) {tx : ChainTransaction} :
    TxInfo.ofDeliveries ds rs = .pending tx ↔ Delivery.FirstFound ds tx ∧
      ¬(tx.blockNumber.isSome = true ∧ ∃ receipt, c.Hears fetch (.ok (some receipt))) := by
  rw [TxInfo.ofDeliveries, TxInfo.ofLookups_eq_pending_iff, raceOptional_eq_some_iff_firstFound,
    raceOptional_isSome_iff hrs, ChainTransaction.isPending_eq_false_iff]

/-- No look-up makes a hash lost. -/
theorem ofDeliveries_ne_lost : (TxInfo.ofDeliveries ds rs).status ≠ .lost := by
  have hne : TxInfo.ofDeliveries ds rs ≠ .lost := TxInfo.ofLookups_ne_lost
  cases h : TxInfo.ofDeliveries ds rs with
  | lost => exact absurd h hne
  | mined tx receipt => rw [TxInfo.status]; split_ifs <;> decide
  | error | notFound | pending => simp [TxInfo.status]

theorem Delivers.classifies (hds : c.Delivers lookup ds) (hrs : c.Delivers fetch rs) :
    c.Classifies lookup fetch ds rs (.ofDeliveries ds rs) where
  error := by simp [TxInfo.status_eq_error_iff, hds.ofDeliveries_eq_error_iff]
  notFound := by rw [TxInfo.status_eq_notFound_iff, hds.ofDeliveries_eq_notFound_iff]
  pending := by simp only [TxInfo.status_eq_pending_iff, hrs.ofDeliveries_eq_pending_iff]
  reverted := by
    simp only [TxInfo.status_eq_reverted_iff, ofDeliveries_eq_mined_iff, and_assoc]
  done := by simp only [TxInfo.status_eq_done_iff, ofDeliveries_eq_mined_iff, and_assoc]
  ne_lost := ofDeliveries_ne_lost
  text text := by
    have hstate : TxInfo.ofDeliveries ds rs = .error text ↔ _ := hds.ofDeliveries_eq_error_iff
    rw [← hstate]
    cases TxInfo.ofDeliveries ds rs <;> simp [TxInfo.error?]
  transaction tx := by
    rw [TxInfo.transaction?_eq_some_iff, hrs.ofDeliveries_eq_pending_iff]
    simp only [ofDeliveries_eq_mined_iff, exists_and_left, exists_firstFound_iff hrs]
    tauto
  receipt receipt := by
    simp only [TxInfo.receipt?_eq_some_iff, ofDeliveries_eq_mined_iff]
  mined := by
    cases h : TxInfo.ofDeliveries ds rs with
    | mined tx receipt => rw [TxInfo.status]; split_ifs <;> simp [TxInfo.receipt?]
    | error | notFound | lost | pending => simp [TxInfo.receipt?, TxInfo.status]

/-! ## What a client tells -/

/-- A client tells the state that the deliveries of its two look-ups make. -/
theorem txInfo_deliveries (c : Client) (hash : Hash) (s : Session) :
    ∃ later ds rs, s.now ≤ later ∧ c.Delivers (·.serve s.now (.transaction hash)) ds ∧
      c.Delivers (·.serve later (.receipt hash)) rs ∧
      ((c.txInfo hash).run s).1 = .ofDeliveries ds rs := by
  obtain ⟨ds, hds, hlooked⟩ := c.ask_delivers (.transaction hash) Option.isSome
    (Delivery.raceOptional "transaction_by_hash") s
  obtain ⟨rs, hrs, hreceived⟩ := c.ask_delivers (.receipt hash) Option.isSome
    (Delivery.raceOptional "transaction_receipt") ((c.transaction hash).outcome s).2
  refine ⟨_, ds, rs, c.le_now_transaction hash s, hds, hrs, ?_⟩
  rw [txInfo_fst, TxInfo.ofDeliveries, ← hlooked, ← hreceived]
  rfl

/-- **A state is told by the earliest transaction and the earliest receipt that nodes deliver.**
    Whoever fails or finds nothing before, it is an error only if nobody answers and not found only
    if nobody finds the transaction; a mined transaction is pending until somebody finds its
    receipt. If all nodes that find the transaction agree on it, and so do those that find its
    receipt, even at another moment, the order of their answers leaves no trace. -/
theorem txInfo_classified (c : Client) :
    (∀ hash s, ∃ later ds rs, s.now ≤ later ∧ c.Delivers (·.serve s.now (.transaction hash)) ds ∧
      c.Delivers (·.serve later (.receipt hash)) rs ∧
      ((c.txInfo hash).run s).1 = .ofDeliveries ds rs) ∧
    ∀ lookup fetch ds rs, c.Delivers lookup ds → c.Delivers fetch rs →
      c.Classifies lookup fetch ds rs (.ofDeliveries ds rs) ∧
      (c.nodeList = [] → TxInfo.ofDeliveries ds rs =
        .error "Redundant call transaction_by_hash failed, no nodes configured") ∧
      ∀ fetch' ds' rs', c.Delivers lookup ds' → c.Delivers fetch' rs' →
        (∀ tx tx', c.Hears lookup (.ok (some tx)) → c.Hears lookup (.ok (some tx')) → tx = tx') →
        (∀ receipt receipt', c.Hears fetch (.ok (some receipt)) →
          c.Hears fetch' (.ok (some receipt')) → receipt = receipt') →
        ((∃ receipt, c.Hears fetch (.ok (some receipt))) ↔
          ∃ receipt, c.Hears fetch' (.ok (some receipt))) →
        TxInfo.ofDeliveries ds rs = .ofDeliveries ds' rs' := by
  refine ⟨c.txInfo_deliveries, fun lookup fetch ds rs hds hrs => ⟨hds.classifies hrs, ?_, ?_⟩⟩
  · intro hnil
    have hnone : ∀ o, ¬c.Hears lookup (.ok o) := fun o ⟨n, hn, _⟩ => by
      rw [hnil] at hn
      cases hn
    rw [hds.ofDeliveries_eq_error_iff, causes_eq_empty hnil]
    exact ⟨hnone, rfl⟩
  · intro fetch' ds' rs' hds' hrs' htx hreceipt hfound
    rw [TxInfo.ofDeliveries, TxInfo.ofDeliveries, raceOptional_eq_of_agree hds hds' htx]
    refine TxInfo.ofLookups_congr fun receipt => ⟨?_, ?_⟩
    · exact raceOptional_eq_some_of_agree hrs hrs' hreceipt hfound.1
    · exact raceOptional_eq_some_of_agree hrs' hrs
        (fun r r' hr hr' => (hreceipt r' r hr' hr).symm) hfound.2

end

/-- One node fails and two find a mined transaction, one finds its receipt: the transaction is
    reverted, in whatever order they say so. -/
theorem txInfo_classified_of_reverted :
    let tx : ChainTransaction := ⟨.zero, .zero, none, 0, 0, 21000, 7, [], some 9⟩
    let receipt : Receipt := ⟨.failure, 21000, [], some 9⟩
    let lookup : Node → Attempt (Option ChainTransaction) := fun n =>
      if n.name = "a" then ⟨0, some (.error (.transport "down"))⟩ else ⟨3, some (.ok (some tx))⟩
    let fetch : Node → Attempt (Option Receipt) := fun n =>
      if n.name = "b" then ⟨3, some (.ok (some receipt))⟩ else ⟨0, some (.ok none)⟩
    let ds := [⟨"a", .error (.transport "down")⟩, ⟨"b", .ok (some tx)⟩, ⟨"c", .ok (some tx)⟩]
    let rs := [⟨"a", .ok none⟩, ⟨"b", .ok (some receipt)⟩, ⟨"c", .ok none⟩]
    let info := TxInfo.ofDeliveries ds rs
    trio.Delivers lookup ds ∧ trio.Delivers fetch rs ∧ info = .mined tx receipt ∧
      (∃ tx receipt, Delivery.FirstFound ds tx ∧ tx.blockNumber.isSome = true ∧
        Delivery.FirstFound rs receipt ∧ receipt.status = .failure) ∧
      ∀ ds' rs', trio.Delivers lookup ds' → trio.Delivers fetch rs' →
        TxInfo.ofDeliveries ds' rs' = .mined tx receipt := by
  intro tx receipt lookup fetch ds rs info
  have hds : trio.Delivers lookup ds := .refl _
  have hrs : trio.Delivers fetch rs := .refl _
  have hlookup : ∀ tx', trio.Hears lookup (.ok (some tx')) → tx' = tx := by
    rintro tx' ⟨n, -, h⟩
    simp only [lookup, Attempt.heard] at h
    split_ifs at h <;> simp at h
    exact h.symm
  have hfetch : ∀ receipt', trio.Hears fetch (.ok (some receipt')) → receipt' = receipt := by
    rintro receipt' ⟨n, -, h⟩
    simp only [fetch, Attempt.heard] at h
    split_ifs at h <;> simp at h
    exact h.symm
  obtain ⟨hclassifies, -, hagree⟩ := (txInfo_classified trio).2 lookup fetch ds rs hds hrs
  refine ⟨hds, hrs, rfl, hclassifies.reverted.1 rfl, fun ds' rs' hds' hrs' => ?_⟩
  rw [← hagree fetch ds' rs' hds' hrs' (fun t t' ht ht' => (hlookup t ht).trans (hlookup t' ht').symm)
    (fun r r' hr hr' => (hfetch r hr).trans (hfetch r' hr').symm) Iff.rfl]
  rfl

end Client

end NodeFleet

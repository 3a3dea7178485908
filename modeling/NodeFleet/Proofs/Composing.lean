/-
  What a composed transaction carries, field by field.

  * `Fills`: a field as it was wished for, or else as it is read.
  * `Client.Packs`, `Client.Limits`: calldata and gas limit of a wish.
  * `Client.Fulfils`: a transaction that is what was wished for. `Client.Composes`: how composing
    ends, with it or at the first step that fails (`compose_iff`).
  * `compose_fills_in`: composing fills in what is open, and reads nothing else.
-/
import NodeFleet.Proofs.Validation

namespace NodeFleet

/-! ## Steps -/

/-- A field as it was wished for; if it was left open, what reading it comes to. -/
inductive Fills {α : Type} (wished : Option α) (read : Run α) (s : Session) :
    Result α → Session → Prop
  | given (a : α) (hwished : wished = some a) : Fills wished read s (.ok a) s
  | read (r : Result α) (s' : Session) (hopen : wished = none) (hread : read.outcome s = (r, s')) :
    Fills wished read s r s'

section
variable {α : Type} {read : Run α} {s s' : Session} {r : Result α}

theorem fills_none_iff : Fills none read s r s' ↔ read.outcome s = (r, s') := by
  constructor
  · intro h
    cases h with
    | given a hwished => cases hwished
    | read _ _ _ hread => exact hread
  · exact .read r s' rfl

theorem fills_some_iff {a : α} :
    Fills (some a) read s r s' ↔ (pure a : Run α).outcome s = (r, s') := by
  constructor
  · intro h
    cases h with
    | given _ hwished => cases hwished; rfl
    | read _ _ hopen => cases hopen
  · rintro ⟨⟩
    exact .given a rfl

end

/-- The estimate that is asked for before a transaction is sent. -/
def UnsignedTransaction.gasQuery (tx : UnsignedTransaction) (sender : Address) : GasQuery :=
  ⟨sender, tx.to_, tx.gasPrice, tx.value, tx.data⟩

namespace Client

variable (c : Client)

/-- What packing the calldata of a wish comes to. -/
inductive Packs (w : Wish) (s : Session) : Result Bytes → Session → Prop
  | empty (hpayload : w.payload = .empty) : Packs w s (.ok []) s
  | raw (data : Bytes) (hpayload : w.payload = .raw data) : Packs w s (.ok data) s
  | unpublished (method : String) (args : List Abi.Value) (contract : Address) (e : ExplorerError)
      (hpayload : w.payload = .call method args) (hto : w.to_ = some contract)
      (hinterface : c.interfaces contract = .error e) :
    Packs w s (.error (.explorer e)) (s.record [.interfaceFetched contract])
  | packed (method : String) (args : List Abi.Value) (contract : Address) (i : Abi.Interface)
      (hpayload : w.payload = .call method args) (hto : w.to_ = some contract)
      (hinterface : c.interfaces contract = .ok i) :
    Packs w s ((i.encodeCall method args).mapError (.encode ∘ .call))
      (s.record [.interfaceFetched contract])

/-- What finding the gas limit of a wish comes to, for the transaction that the query is of. -/
inductive Limits (w : Wish) (query : GasQuery) (s : Session) : Result UInt64 → Session → Prop
  | given (limit : UInt64) (hwished : w.gasLimit = some limit) : Limits w query s (.ok limit) s
  | transfer (hopen : w.gasLimit = none) (htransfer : w.IsTransfer) :
    Limits w query s (.ok 21000) s
  | estimated (r : Result UInt64) (s' : Session) (hopen : w.gasLimit = none)
      (hmore : ¬w.IsTransfer)
      (hasked : (c.first "estimate_gas" (.estimateGas query)).outcome s = (r, s')) :
    Limits w query s r s'

/-- A transaction is what a sender wished for; finding it led from one session to another. -/
structure Fulfils (sender : Address) (w : Wish) (s : Session) (tx : UnsignedTransaction)
    (s' : Session) : Prop where
  to_ : tx.to_ = w.to_
  value : tx.value = w.value
  filled : ∃ packed counted priced gwei, c.Packs w s (.ok tx.data) packed ∧
    Fills w.nonce (c.minedNonce sender) packed (.ok tx.nonce) counted ∧
    Fills w.gasPriceGwei c.recommendedGasPrice counted (.ok gwei) priced ∧
    Units.gweiToWeiPrice gwei = .ok tx.gasPrice ∧
    c.Limits w (tx.gasQuery sender) priced (.ok tx.gasLimit) s'

/-- How composing ends: with a transaction that is what was wished for, or at the first step that
    fails, with the failure of this step and in the session that it left. -/
inductive Composes (sender : Address) (w : Wish) (s : Session) :
    Result UnsignedTransaction → Session → Prop
  | unpacked (e : Error) (s' : Session) (hdata : c.Packs w s (.error e) s') :
    Composes sender w s (.error e) s'
  | uncounted (e : Error) (data : Bytes) (packed s' : Session)
      (hdata : c.Packs w s (.ok data) packed)
      (hnonce : Fills w.nonce (c.minedNonce sender) packed (.error e) s') :
    Composes sender w s (.error e) s'
  | unpriced (e : Error) (data : Bytes) (nonce : UInt64) (packed counted s' : Session)
      (hdata : c.Packs w s (.ok data) packed)
      (hnonce : Fills w.nonce (c.minedNonce sender) packed (.ok nonce) counted)
      (hprice : Fills w.gasPriceGwei c.recommendedGasPrice counted (.error e) s') :
    Composes sender w s (.error e) s'
  | unpayable (e : AmountError) (data : Bytes) (nonce : UInt64) (gwei : Binary64)
      (packed counted s' : Session) (hdata : c.Packs w s (.ok data) packed)
      (hnonce : Fills w.nonce (c.minedNonce sender) packed (.ok nonce) counted)
      (hprice : Fills w.gasPriceGwei c.recommendedGasPrice counted (.ok gwei) s')
      (hwei : Units.gweiToWeiPrice gwei = .error e) :
    Composes sender w s (.error (.ofAmount e)) s'
  | unlimited (e : Error) (data : Bytes) (nonce : UInt64) (gwei : Binary64) (gasPrice : BitVec 128)
      (packed counted priced s' : Session) (hdata : c.Packs w s (.ok data) packed)
      (hnonce : Fills w.nonce (c.minedNonce sender) packed (.ok nonce) counted)
      (hprice : Fills w.gasPriceGwei c.recommendedGasPrice counted (.ok gwei) priced)
      (hwei : Units.gweiToWeiPrice gwei = .ok gasPrice)
      (hlimit : c.Limits w ⟨sender, w.to_, gasPrice, w.value, data⟩ priced (.error e) s') :
    Composes sender w s (.error e) s'
  | composed (tx : UnsignedTransaction) (s' : Session) (h : c.Fulfils sender w s tx s') :
    Composes sender w s (.ok tx) s'

variable {c} {sender : Address} {w : Wish} {s s' : Session}

theorem outcome_packCall {contract : Address} {method : String} {args : List Abi.Value} :
    (c.packCall contract method args).outcome s =
      (match c.interfaces contract with
        | .error e => .error (.explorer e)
        | .ok i => (i.encodeCall method args).mapError (.encode ∘ .call),
      s.record [.interfaceFetched contract]) := by
  simp only [packCall, interface, Run.outcome_bind, Run.outcome_record, Run.outcome_ofResult]
  cases c.interfaces contract <;> rfl

theorem packs_iff {r : Result Bytes} (hvalid : w.check = .ok ()) :
    (c.calldata w).outcome s = (r, s') ↔ c.Packs w s r s' := by
  constructor
  · unfold calldata
    split
    · next hpayload =>
      rintro ⟨⟩
      exact .empty hpayload
    · next data hpayload =>
      rintro ⟨⟩
      exact .raw data hpayload
    · next method args hpayload hto =>
      have hinvalid : w.check ≠ .ok () := by
        simp [Wish.check_eq_ok_iff, Wish.Invalid, hpayload, hto]
      exact absurd hvalid hinvalid
    · next method args contract hpayload hto =>
      rw [outcome_packCall]
      cases hinterface : c.interfaces contract with
      | error e =>
        rintro ⟨⟩
        exact .unpublished method args contract e hpayload hto hinterface
      | ok i =>
        rintro ⟨⟩
        exact .packed method args contract i hpayload hto hinterface
  · intro h
    cases h with
    | empty hpayload =>
      simp only [calldata, hpayload]
      rfl
    | raw data hpayload =>
      simp only [calldata, hpayload]
      rfl
    | unpublished method args contract e hpayload hto hinterface =>
      simp only [calldata, hpayload, hto, outcome_packCall, hinterface]
    | packed method args contract i hpayload hto hinterface =>
      simp only [calldata, hpayload, hto, outcome_packCall, hinterface]

theorem limits_iff {gwei : Binary64} {gasPrice : BitVec 128} {data : Bytes} {r : Result UInt64}
    (hwei : Units.gweiToWeiPrice gwei = .ok gasPrice) :
    (c.gasLimit sender w gwei data).outcome s = (r, s') ↔
      c.Limits w ⟨sender, w.to_, gasPrice, w.value, data⟩ s r s' := by
  have hestimate : c.estimateGas sender w.to_ gwei w.value data =
      c.first "estimate_gas" (.estimateGas ⟨sender, w.to_, gasPrice, w.value, data⟩) := by
    rw [estimateGas, hwei]
    rfl
  rcases c.gasLimit_cases sender w gwei data with ⟨limit, hwished, heq⟩ |
    ⟨hopen, htransfer, heq⟩ | ⟨hopen, hmore, heq⟩
  · rw [heq]
    constructor
    · rintro ⟨⟩
      exact .given limit hwished
    · intro h
      cases h with
      | given _ h => rw [hwished] at h; cases h; rfl
      | transfer h => rw [hwished] at h; cases h
      | estimated _ _ h => rw [hwished] at h; cases h
  · rw [heq]
    constructor
    · rintro ⟨⟩
      exact .transfer hopen htransfer
    · intro h
      cases h with
      | given _ h => rw [hopen] at h; cases h
      | transfer => rfl
      | estimated _ _ _ h => exact absurd htransfer h
  · rw [heq, hestimate]
    constructor
    · exact .estimated r s' hopen hmore
    · intro h
      cases h with
      | given _ h => rw [hopen] at h; cases h
      | transfer _ h => exact absurd h hmore
      | estimated _ _ _ _ hasked => exact hasked

/-- A price in Gwei that is none in wei fails composing, before or after the limit is looked for. -/
theorem outcome_gasLimit_bind_of_error {gwei : Binary64} {e : Error} {data : Bytes}
    (hwei : (Units.gweiToWeiPrice gwei).mapError .ofAmount = .error e)
    {f : UInt64 → Run UnsignedTransaction} (hf : ∀ limit, (f limit).outcome s = (.error e, s)) :
    (c.gasLimit sender w gwei data >>= f).outcome s = (.error e, s) := by
  rcases c.gasLimit_cases sender w gwei data with ⟨limit, -, heq⟩ | ⟨-, -, heq⟩ | ⟨-, -, heq⟩
  · rw [heq]
    exact hf limit
  · rw [heq]
    exact hf 21000
  · rw [heq, estimateGas, hwei]
    rfl

theorem nonceFor_iff {r : Result UInt64} :
    (c.nonceFor sender w).outcome s = (r, s') ↔ Fills w.nonce (c.minedNonce sender) s r s' := by
  unfold nonceFor
  cases w.nonce with
  | none => exact fills_none_iff.symm
  | some nonce => exact fills_some_iff.symm

theorem priceFor_iff {r : Result Binary64} :
    (c.priceFor w).outcome s = (r, s') ↔ Fills w.gasPriceGwei c.recommendedGasPrice s r s' := by
  unfold priceFor
  cases w.gasPriceGwei with
  | none => exact fills_none_iff.symm
  | some gwei => exact fills_some_iff.symm

/-! ## The whole -/

variable (c sender w) in
/-- What is left to do when nonce and price are known. -/
def finish (data : Bytes) (nonce : UInt64) (gwei : Binary64) : Run UnsignedTransaction := do
  let gasLimit ← c.gasLimit sender w gwei data
  let gasPrice ← Run.ofResult ((Units.gweiToWeiPrice gwei).mapError .ofAmount)
  return { nonce, to_ := w.to_, value := w.value, gasLimit, gasPrice, data }

theorem finish_iff {data : Bytes} {nonce : UInt64} {gwei : Binary64}
    {r : Result UnsignedTransaction} :
    (c.finish sender w data nonce gwei).outcome s = (r, s') ↔
      (∃ e, Units.gweiToWeiPrice gwei = .error e ∧ r = .error (.ofAmount e) ∧ s' = s) ∨
      ∃ gasPrice, Units.gweiToWeiPrice gwei = .ok gasPrice ∧
        ((∃ e, c.Limits w ⟨sender, w.to_, gasPrice, w.value, data⟩ s (.error e) s' ∧ r = .error e) ∨
        ∃ limit, c.Limits w ⟨sender, w.to_, gasPrice, w.value, data⟩ s (.ok limit) s' ∧
          r = .ok ⟨nonce, w.to_, w.value, limit, gasPrice, data⟩) := by
  cases hwei : Units.gweiToWeiPrice gwei with
  | error e =>
    have houtcome : (c.finish sender w data nonce gwei).outcome s = (.error (.ofAmount e), s) :=
      outcome_gasLimit_bind_of_error (by rw [hwei]; rfl) fun limit => by rw [hwei]; rfl
    simp [houtcome, eq_comm]
  | ok gasPrice =>
    rw [finish, Run.outcome_bind_eq_iff, hwei]
    simp only [limits_iff hwei]
    constructor
    · rintro (⟨e, hlimit, rfl⟩ | ⟨limit, t, hlimit, hdone⟩)
      · exact .inr ⟨gasPrice, rfl, .inl ⟨e, hlimit, rfl⟩⟩
      · cases hdone
        exact .inr ⟨gasPrice, rfl, .inr ⟨limit, hlimit, rfl⟩⟩
    · rintro (⟨e, ⟨⟩, -⟩ | ⟨_, ⟨⟩, ⟨e, hlimit, rfl⟩ | ⟨limit, hlimit, rfl⟩⟩)
      · exact .inl ⟨e, hlimit, rfl⟩
      · exact .inr ⟨limit, s', hlimit, rfl⟩

theorem compose_iff (hvalid : w.check = .ok ()) {r : Result UnsignedTransaction} :
    (c.compose sender w).outcome s = (r, s') ↔ c.Composes sender w s r s' := by
  have hsteps : c.compose sender w = (do
      let data ← c.calldata w
      let nonce ← c.nonceFor sender w
      let gwei ← c.priceFor w
      c.finish sender w data nonce gwei) := by
    rw [compose_eq, hvalid]
    rfl
  simp only [hsteps, Run.outcome_bind_eq_iff, packs_iff hvalid, nonceFor_iff, priceFor_iff,
    finish_iff]
  constructor
  · rintro (⟨e, hdata, rfl⟩ | ⟨data, packed, hdata, ⟨e, hnonce, rfl⟩ | ⟨nonce, counted, hnonce,
      ⟨e, hprice, rfl⟩ | ⟨gwei, priced, hprice, ⟨e, hwei, rfl, rfl⟩ | ⟨gasPrice, hwei,
      ⟨e, hlimit, rfl⟩ | ⟨limit, hlimit, rfl⟩⟩⟩⟩⟩)
    · exact .unpacked e s' hdata
    · exact .uncounted e data packed s' hdata hnonce
    · exact .unpriced e data nonce packed counted s' hdata hnonce hprice
    · exact .unpayable e data nonce gwei packed counted s' hdata hnonce hprice hwei
    · exact .unlimited e data nonce gwei gasPrice packed counted priced s' hdata hnonce hprice hwei
        hlimit
    · exact .composed _ s' ⟨rfl, rfl, packed, counted, priced, gwei, hdata, hnonce, hprice, hwei,
        hlimit⟩
  · intro h
    cases h with
    | unpacked e _ hdata => exact .inl ⟨e, hdata, rfl⟩
    | uncounted e data packed _ hdata hnonce =>
      exact .inr ⟨data, packed, hdata, .inl ⟨e, hnonce, rfl⟩⟩
    | unpriced e data nonce packed counted _ hdata hnonce hprice =>
      exact .inr ⟨data, packed, hdata, .inr ⟨nonce, counted, hnonce, .inl ⟨e, hprice, rfl⟩⟩⟩
    | unpayable e data nonce gwei packed counted _ hdata hnonce hprice hwei =>
      exact .inr ⟨data, packed, hdata, .inr ⟨nonce, counted, hnonce, .inr ⟨gwei, s', hprice,
        .inl ⟨e, hwei, rfl, rfl⟩⟩⟩⟩
    | unlimited e data nonce gwei gasPrice packed counted priced _ hdata hnonce hprice hwei
        hlimit =>
      exact .inr ⟨data, packed, hdata, .inr ⟨nonce, counted, hnonce, .inr ⟨gwei, priced, hprice,
        .inr ⟨gasPrice, hwei, .inl ⟨e, hlimit, rfl⟩⟩⟩⟩⟩
    | composed tx _ h =>
      obtain ⟨hto, hvalue, packed, counted, priced, gwei, hdata, hnonce, hprice, hwei, hlimit⟩ := h
      rcases tx with ⟨nonce, to_, value, limit, gasPrice, data⟩
      cases hto
      cases hvalue
      exact .inr ⟨data, packed, hdata, .inr ⟨nonce, counted, hnonce, .inr ⟨gwei, priced, hprice,
        .inr ⟨gasPrice, hwei, .inr ⟨limit, hlimit, rfl⟩⟩⟩⟩⟩

/-- **Composing fills in what a wish leaves open, and nothing else.** A transaction that is composed
    is what was wished for: what was given is as it was given, and what was open is what was read,
    the limit for just this transaction. Anything that fails on the way is what composing comes to,
    and nothing happens after it. Nothing is read that was not open. -/
theorem compose_fills_in (c : Client) (sender : Address) {w : Wish} (hvalid : w.check = .ok ())
    (s : Session) :
    (∀ r s', (c.compose sender w).outcome s = (r, s') ↔ c.Composes sender w s r s') ∧
    s.Adds (w.Needs sender) ((c.compose sender w).outcome s).2 :=
  ⟨fun _ _ => compose_iff hvalid, c.leaves_compose sender w s⟩

end Client

/-- A node that tells at once the nonce of every account, and the gas of every transaction. -/
def Node.counting (name : String) (nonce gas : UInt64) : Node where
  name
  serve _ r :=
    match r with
    | .nonce _ _ => ⟨0, some (.ok nonce)⟩
    | .estimateGas _ => ⟨0, some (.ok gas)⟩
    | _ => ⟨0, none⟩

/-- Five wei and one byte of data at one Gwei, with nonce and gas limit left open. -/
theorem Client.compose_fills_in_of_open :
    let c := ofSorted [.counting "a" 7 30000] (List.pairwise_singleton _ _)
    let w : Wish := ⟨some .zero, 5, none, some ⟨0x3FF0000000000000⟩, none, .raw [1]⟩
    w.check = .ok () ∧ ∃ s', (c.compose .zero w).outcome .start =
      (.ok ⟨7, some .zero, 5, 30000, 1000000000, [1]⟩, s') := by
  intro c w
  have hvalid : w.check = .ok () := by
    refine Wish.check_eq_ok_iff.2 ?_
    rintro (⟨gwei, ⟨⟩, hprice⟩ | ⟨⟨method, args, ⟨⟩⟩, -⟩)
    exact hprice (by decide +kernel)
  have hwei : Units.gweiToWeiPrice ⟨0x3FF0000000000000⟩ = .ok 1000000000 := by decide +kernel
  have hmore : ¬w.IsTransfer := by
    rintro ⟨⟨⟩, -⟩
  obtain ⟨counted, hnonce⟩ :=
    outcome_first_of_single (n := .counting "a" 7 30000) (r := .nonce .zero .mined)
      (s := .start) (a := (7 : UInt64)) rfl "get_mined_nonce"
  obtain ⟨s', hgas⟩ :=
    outcome_first_of_single (n := .counting "a" 7 30000) (s := counted) (a := (30000 : UInt64))
      (r := .estimateGas ⟨.zero, some .zero, 1000000000, 5, [1]⟩) rfl "estimate_gas"
  obtain ⟨hcomposes, -⟩ := compose_fills_in c .zero hvalid .start
  exact ⟨hvalid, s', (hcomposes _ s').2 (.composed _ s' ⟨rfl, rfl, .start, counted, counted, _,
    .raw [1] rfl, .read _ _ rfl hnonce, .given _ rfl, hwei, .estimated _ s' rfl hmore hgas⟩)⟩

end NodeFleet

/-
  What computations leave behind in their session.

  * `outcome_bind` and the lemmas beside it: outcomes, step by step.
  * `Session.Adds`: events of a kind lead from one session to another; `Run.Leaves`: a computation
    that adds no others.
  * `Event.isRead`: what neither asks for a signature nor sends anything; `Session.ReadsTo` and
    `Run.OnlyReads`: the same for reads.
  * `Run.Refuses`: input is called invalid before anything has happened. `Run.Admits`: reads that
    never do this; `Run.Heard`: reads that moreover come to nothing unless they ask somebody.
  * `Run.Fails`: reads that end in a failure; `Run.Returns`: what holds of every value.
  * `Wish.Needs`: the events that what a wish leaves open is worth. `Client.leaves_compose`:
    composing leaves no others.
  * The reads of a client and the composing of a transaction are put together from these by their
    rules for `bind`.
-/
import NodeFleet.Composer
import NodeFleet.Proofs.Race

namespace NodeFleet

namespace Run

variable {α β : Type}

/-! ## Outcomes -/

theorem outcome_bind (m : Run α) (f : α → Run β) (s : Session) :
    (m >>= f).outcome s =
      match m.outcome s with
      | (.ok a, s') => (f a).outcome s'
      | (.error e, s') => (.error e, s') := by
  simp only [outcome, ExceptT.run_bind, Session.run_bind]
  rcases m.run.run s with ⟨_ | _, s'⟩ <;> rfl

theorem outcome_bind_eq_iff {m : Run α} {f : α → Run β} {s s' : Session} {r : Result β} :
    (m >>= f).outcome s = (r, s') ↔
      (∃ e, m.outcome s = (.error e, s') ∧ r = .error e) ∨
      ∃ a t, m.outcome s = (.ok a, t) ∧ (f a).outcome t = (r, s') := by
  rw [outcome_bind]
  rcases m.outcome s with ⟨e | a, t⟩
  · simp [and_comm, eq_comm]
  · simp

theorem outcome_bind_of_error {m : Run α} {f : α → Run β} {s : Session} {e : Error}
    (h : (m.outcome s).1 = .error e) : (m >>= f).outcome s = (.error e, (m.outcome s).2) := by
  rw [outcome_bind]
  rcases hm : m.outcome s with ⟨r, s'⟩
  rw [hm] at h
  rw [show r = .error e from h]

theorem outcome_ofResult (r : Result α) (s : Session) : (ofResult r).outcome s = (r, s) := rfl

theorem outcome_lift (m : StateM Session α) (s : Session) :
    (liftM m : Run α).outcome s = (.ok (m.run s).1, (m.run s).2) :=
  rfl

theorem outcome_get (s : Session) : (get : Run Session).outcome s = (.ok s, s) := rfl

theorem outcome_modify (f : Session → Session) (s : Session) :
    (modify f : Run Unit).outcome s = (.ok (), f s) :=
  rfl

theorem outcome_record (e : Event) (s : Session) :
    (record e).outcome s = (.ok (), s.record [e]) :=
  rfl

theorem ofResult_ok_bind (a : α) (f : α → Run β) : ofResult (.ok a) >>= f = f a := rfl

end Run

/-! ## Reads -/

/-- Every request but that of sending something. -/
def Request.isRead : Request → Bool
  | .sendRaw _ => false
  | _ => true

/-- What neither asks for a signature nor sends anything. -/
def Event.isRead : Event → Bool
  | .asked _ r => r.isRead
  | .signatureAsked _ => false
  | .feedRead | .interfaceFetched _ => true

/-- Nothing but events of a kind leads from one session to another. -/
def Session.Adds (P : Event → Prop) (s s' : Session) : Prop :=
  ∃ added, s'.events = s.events ++ added ∧ ∀ e ∈ added, P e.event

namespace Session.Adds

variable {P : Event → Prop} {s s' s'' : Session}

theorem of_eq (h : s'.events = s.events) : s.Adds P s' :=
  ⟨[], by rw [h, List.append_nil], by simp⟩

theorem trans (h : s.Adds P s') (h' : s'.Adds P s'') : s.Adds P s'' := by
  obtain ⟨added, hevents, hadded⟩ := h
  obtain ⟨more, hevents', hmore⟩ := h'
  refine ⟨added ++ more, by rw [hevents', hevents, List.append_assoc], fun e he => ?_⟩
  exact (List.mem_append.1 he).elim (hadded e) (hmore e)

end Session.Adds

/-- Nothing but reads leads from one session to another. -/
def Session.ReadsTo (s s' : Session) : Prop :=
  ∃ reads, s'.events = s.events ++ reads ∧ ∀ e ∈ reads, e.event.isRead = true

namespace Session.ReadsTo

variable {s s' s'' : Session}

theorem of_adds (h : s.Adds (·.isRead = true) s') : s.ReadsTo s' := h

theorem of_eq (h : s'.events = s.events) : s.ReadsTo s' := of_adds (.of_eq h)

theorem trans (h : s.ReadsTo s') (h' : s'.ReadsTo s'') : s.ReadsTo s'' :=
  of_adds (Adds.trans (P := fun e => e.isRead = true) h h')

end Session.ReadsTo

namespace Run

variable {α β : Type}

/-- A computation that adds nothing but events of a kind to those of its session. -/
def Leaves (P : Event → Prop) (m : Run α) : Prop := ∀ s : Session, s.Adds P (m.outcome s).2

section
variable {P : Event → Prop}

theorem Leaves.mono {Q : Event → Prop} {m : Run α} (h : m.Leaves P) (hPQ : ∀ e, P e → Q e) :
    m.Leaves Q := fun s => by
  obtain ⟨added, hevents, hadded⟩ := h s
  exact ⟨added, hevents, fun e he => hPQ e.event (hadded e he)⟩

theorem leaves_pure (a : α) : (pure a : Run α).Leaves P := fun _ => .of_eq rfl

theorem leaves_ofResult (r : Result α) : (ofResult r).Leaves P := fun _ => .of_eq rfl

theorem leaves_fail (e : Error) : (fail e : Run α).Leaves P := fun _ => .of_eq rfl

theorem leaves_record {e : Event} (h : P e) : (record e).Leaves P :=
  fun s => ⟨[⟨s.now, e⟩], rfl, by simpa using h⟩

theorem Leaves.bind {m : Run α} {f : α → Run β} (hm : m.Leaves P) (hf : ∀ a, (f a).Leaves P) :
    (m >>= f).Leaves P := by
  intro s
  have hadds := hm s
  rw [outcome_bind]
  rcases h : m.outcome s with ⟨e | a, s'⟩ <;> rw [h] at hadds
  · exact hadds
  · exact hadds.trans (hf a s')

end

/-- A computation that adds nothing but reads to the events of its session. -/
def OnlyReads (m : Run α) : Prop := ∀ s : Session, s.ReadsTo (m.outcome s).2

theorem Leaves.onlyReads {m : Run α} (h : m.Leaves (·.isRead = true)) : m.OnlyReads := h

theorem onlyReads_pure (a : α) : (pure a : Run α).OnlyReads := (leaves_pure a).onlyReads

theorem onlyReads_ofResult (r : Result α) : (ofResult r).OnlyReads := (leaves_ofResult r).onlyReads

theorem onlyReads_fail (e : Error) : (fail e : Run α).OnlyReads := (leaves_fail e).onlyReads

theorem onlyReads_record {e : Event} (h : e.isRead = true) : (record e).OnlyReads :=
  Leaves.onlyReads (leaves_record h)

theorem OnlyReads.bind {m : Run α} {f : α → Run β} (hm : m.OnlyReads) (hf : ∀ a, (f a).OnlyReads) :
    (m >>= f).OnlyReads :=
  Leaves.onlyReads (Leaves.bind hm hf)

/-! ## Refusals -/

end Run

/-- A result that calls the input invalid. -/
def Result.Refused {α : Type} (r : Result α) : Prop := ∃ e, r = .error (.validation e)

theorem Result.not_refused_ok {α : Type} (a : α) : ¬Result.Refused (.ok a) := by
  rintro ⟨e, h⟩
  cases h

theorem Result.refused_error_iff {α : Type} {e : Error} :
    Result.Refused (.error e : Result α) ↔ ∃ v, e = .validation v := by
  simp [Refused]

namespace Run

variable {α β : Type}

/-- The input is called invalid and nothing has happened. -/
def Refuses (m : Run α) (s : Session) : Prop :=
  (m.outcome s).1.Refused ∧ (m.outcome s).2.events = s.events

/-- Events that have happened stay. -/
def Grows (m : Run α) : Prop := ∀ s : Session, s.events <+: (m.outcome s).2.events

theorem OnlyReads.grows {m : Run α} (h : m.OnlyReads) : m.Grows := fun s => by
  obtain ⟨reads, hevents, -⟩ := h s
  exact ⟨reads, hevents.symm⟩

theorem Grows.bind {m : Run α} {f : α → Run β} (hm : m.Grows) (hf : ∀ a, (f a).Grows) :
    (m >>= f).Grows := by
  intro s
  have hgrows := hm s
  rw [outcome_bind]
  rcases h : m.outcome s with ⟨e | a, s'⟩ <;> rw [h] at hgrows
  · exact hgrows
  · exact hgrows.trans (hf a s')

/-- A computation without a trace has no step that leaves one. -/
theorem Grows.events_eq {m : Run α} {f : α → Run β} {s s' : Session} {a : α} (hm : m.Grows)
    (hf : (f a).Grows) (h : m.outcome s = (.ok a, s'))
    (hevents : ((f a).outcome s').2.events = s.events) : s'.events = s.events := by
  have hgrows := hm s
  rw [h] at hgrows
  exact (hevents ▸ (hf s').sublist).antisymm hgrows.sublist

theorem refuses_bind {m : Run α} {f : α → Run β} {s : Session} (hm : m.Grows)
    (hf : ∀ a, (f a).Grows) : (m >>= f).Refuses s ↔ m.Refuses s ∨
      ∃ a s', m.outcome s = (.ok a, s') ∧ s'.events = s.events ∧ (f a).Refuses s' := by
  rw [Refuses, outcome_bind, Refuses]
  rcases h : m.outcome s with ⟨e | a, s'⟩
  · simp [Result.refused_error_iff]
  · simp only [Result.not_refused_ok, false_and, false_or]
    constructor
    · rintro ⟨hrefused, hevents⟩
      have hquiet := hm.events_eq (hf a) h hevents
      exact ⟨a, s', rfl, hquiet, hrefused, hevents.trans hquiet.symm⟩
    · rintro ⟨_, _, ⟨⟩, hquiet, hrefused, hevents⟩
      exact ⟨hrefused, hevents.trans hquiet⟩

theorem refuses_ofResult_bind {r : Result α} {f : α → Run β} {s : Session} :
    (ofResult r >>= f).Refuses s ↔ r.Refused ∨ ∃ a, r = .ok a ∧ (f a).Refuses s := by
  cases r with
  | error e =>
    have houtcome : (ofResult (.error e) >>= f).outcome s = (.error e, s) := rfl
    simp [Refuses, Result.refused_error_iff, houtcome]
  | ok a => simp [ofResult_ok_bind, Result.not_refused_ok]

/-- Reads that never call their input invalid unless they have asked somebody. -/
structure Admits (m : Run α) : Prop where
  reads : m.OnlyReads
  admits : ∀ s, ¬m.Refuses s

/-- Reads that come to nothing unless they ask somebody. -/
structure Heard (m : Run α) : Prop extends m.Admits where
  heard : ∀ s a, (m.outcome s).1 = .ok a → (m.outcome s).2.events ≠ s.events

theorem admits_pure (a : α) : (pure a : Run α).Admits :=
  ⟨onlyReads_pure a, fun _ h => Result.not_refused_ok a h.1⟩

theorem admits_ofResult {r : Result α} (h : ¬r.Refused) : (ofResult r).Admits :=
  ⟨onlyReads_ofResult r, fun _ hr => h hr.1⟩

theorem heard_record {e : Event} (h : e.isRead = true) : (record e).Heard where
  reads := onlyReads_record h
  admits _ hr := Result.not_refused_ok () hr.1
  heard s _ _ := by simp [outcome_record, Session.record]

theorem Admits.bind {m : Run α} {f : α → Run β} (hm : m.Admits) (hf : ∀ a, (f a).Admits) :
    (m >>= f).Admits where
  reads := hm.reads.bind fun a => (hf a).reads
  admits s h := by
    rcases (refuses_bind hm.reads.grows fun a => (hf a).reads.grows).1 h with h | ⟨a, s', -, -, h⟩
    · exact hm.admits s h
    · exact (hf a).admits s' h

theorem Heard.bind {m : Run α} {f : α → Run β} (hm : m.Heard) (hf : ∀ a, (f a).OnlyReads) :
    (m >>= f).Heard where
  reads := hm.reads.bind hf
  admits s h := by
    rcases (refuses_bind hm.reads.grows fun a => (hf a).grows).1 h with h | ⟨a, s', h, hquiet, -⟩
    · exact hm.admits s h
    · exact hm.heard s a (by rw [h]) (by rw [h, hquiet])
  heard s b hb hevents := by
    rw [outcome_bind] at hb hevents
    rcases h : m.outcome s with ⟨e | a, s'⟩ <;> rw [h] at hb hevents
    · cases hb
    · exact hm.heard s a (by rw [h])
        (by rw [h, hm.reads.grows.events_eq (hf a).grows h hevents])

/-- Reads that are heard at their end are heard. -/
theorem Admits.bind_heard {m : Run α} {f : α → Run β} (hm : m.Admits) (hf : ∀ a, (f a).Heard) :
    (m >>= f).Heard where
  toAdmits := hm.bind fun a => (hf a).toAdmits
  heard s b hb hevents := by
    rw [outcome_bind] at hb hevents
    rcases h : m.outcome s with ⟨e | a, s'⟩ <;> rw [h] at hb hevents
    · cases hb
    · have hquiet := hm.reads.grows.events_eq (hf a).reads.grows h hevents
      exact (hf a).heard s' b hb (hevents.trans hquiet.symm)

/-! ## Failures and values -/

/-- Reads that end in a failure. -/
def Fails (m : Run α) : Prop := ∀ s, ∃ e s', m.outcome s = (.error e, s') ∧ s.ReadsTo s'

theorem fails_ofResult {r : Result α} (h : ∀ a, r ≠ .ok a) : (ofResult r).Fails := by
  cases r with
  | ok a => exact absurd rfl (h a)
  | error e => exact fun s => ⟨e, s, rfl, .of_eq rfl⟩

theorem fails_refused {r : Result α} (h : r.Refused) : (ofResult r).Fails := by
  obtain ⟨e, rfl⟩ := h
  exact fails_ofResult (by simp)

theorem Fails.bind {m : Run α} {f : α → Run β} (hm : m.Fails) : (m >>= f).Fails := by
  intro s
  obtain ⟨e, s', h, hreads⟩ := hm s
  exact ⟨e, s', by rw [outcome_bind_of_error (by rw [h]), h], hreads⟩

theorem OnlyReads.bind_fails {m : Run α} {f : α → Run β} (hm : m.OnlyReads)
    (hf : ∀ a, (f a).Fails) : (m >>= f).Fails := by
  intro s
  have hreads := hm s
  rw [outcome_bind]
  rcases h : m.outcome s with ⟨e | a, s'⟩ <;> rw [h] at hreads
  · exact ⟨e, s', rfl, hreads⟩
  · obtain ⟨e, s'', h', hreads'⟩ := hf a s'
    exact ⟨e, s'', h', hreads.trans hreads'⟩

/-- Every value that a computation comes to has a property. -/
def Returns (m : Run α) (P : α → Prop) : Prop := ∀ s a, (m.outcome s).1 = .ok a → P a

theorem Returns.bind {m : Run α} {f : α → Run β} {P : β → Prop} (hf : ∀ a, (f a).Returns P) :
    (m >>= f).Returns P := by
  intro s b hb
  rw [outcome_bind] at hb
  rcases h : m.outcome s with ⟨e | a, s'⟩ <;> rw [h] at hb
  · cases hb
  · exact hf a s' b hb

end Run

namespace GasOracle

theorem outcome_readFeed (feed : PriceFeed) (s : Session) :
    (readFeed feed).outcome s =
      let s' := (s.record [.feedRead]).advance (feed s.feedReads).delay
      match (feed s.feedReads).value with
      | .ok gwei => (.ok gwei, s'.keepPrice gwei)
      | .error e => (.error e, s') := by
  simp only [readFeed, Run.outcome_bind, Run.outcome_get, Run.outcome_modify, Run.outcome_ofResult]
  cases (feed s.feedReads).value <;> rfl

theorem events_readFeed (feed : PriceFeed) (s : Session) :
    ((readFeed feed).outcome s).2.events = s.events ++ [⟨s.now, .feedRead⟩] := by
  rw [outcome_readFeed]
  cases (feed s.feedReads).value <;> rfl

theorem leaves_readFeed {P : Event → Prop} (h : P .feedRead) (feed : PriceFeed) :
    (readFeed feed).Leaves P :=
  fun s => ⟨_, events_readFeed feed s, by simpa using h⟩

theorem heard_readFeed (feed : PriceFeed) : (readFeed feed).Heard where
  reads := Run.Leaves.onlyReads (leaves_readFeed (P := fun e => e.isRead = true) rfl feed)
  admits s h := by simpa [events_readFeed feed s] using h.2
  heard s _ _ := by simp [events_readFeed feed s]

theorem leaves_recommended {P : Event → Prop} (h : P .feedRead) (o : GasOracle) :
    o.recommended.Leaves P := by
  unfold recommended
  split
  · exact Run.leaves_pure _
  · exact Run.leaves_fail _
  · next feed _ =>
    refine .bind (fun _ => .of_eq rfl) fun s => ?_
    split
    · exact Run.leaves_pure _
    · exact leaves_readFeed h feed

theorem admits_recommended (o : GasOracle) : o.recommended.Admits := by
  unfold recommended
  split
  · exact Run.admits_pure _
  · exact Run.admits_ofResult (by simp [Result.refused_error_iff])
  · next feed _ =>
    refine .bind ⟨fun _ => .of_eq rfl, fun s h => Result.not_refused_ok s h.1⟩ fun s => ?_
    split
    · exact Run.admits_pure _
    · exact (heard_readFeed feed).toAdmits

end GasOracle

namespace Client

variable (c : Client)

theorem events_ask {α : Type} (r : Request) (wins : r.Answer → Bool)
    (settle : List (Delivery r.Answer) → Result α) (s : Session) :
    ((c.ask r wins settle).outcome s).2.events =
      s.events ++ c.nodes.keys.map (⟨s.now, .asked · r⟩) := by
  show s.events ++ (c.nodes.keys.map (Event.asked · r)).map _ = _
  rw [List.map_map]
  rfl

theorem leaves_first {P : Event → Prop} (operation : String) {r : Request}
    (h : ∀ node, P (.asked node r)) : (c.first operation r).Leaves P := by
  refine fun s => ⟨_, c.events_ask r _ _ s, fun e he => ?_⟩
  obtain ⟨name, -, rfl⟩ := List.mem_map.1 he
  exact h name

/-- **A race that is asked for asks**, unless there is nobody to ask; and what its failure names
    are nodes, never the input. -/
theorem heard_first (operation : String) {r : Request} (h : r.isRead = true) :
    (c.first operation r).Heard where
  reads := (c.leaves_first operation fun _ => h).onlyReads
  admits s := by
    rintro ⟨⟨e, he⟩, -⟩
    obtain ⟨ds, hds, hrace⟩ := c.ask_delivers r (fun _ => true) (Delivery.race operation) s
    obtain ⟨-, haggregate⟩ := (race_eq_error_iff hds).1 (hrace.symm.trans he)
    cases haggregate
  heard s a ha hevents := by
    obtain ⟨ds, hds, hrace⟩ := c.ask_delivers r (fun _ => true) (Delivery.race operation) s
    obtain ⟨a', n, hn, -⟩ := (race_isOk_iff hds operation).1 ⟨a, hrace.symm.trans ha⟩
    have hkeys : c.nodes.keys = [] := by simpa [first, events_ask] using hevents
    rw [← map_name_nodeList, List.map_eq_nil_iff] at hkeys
    rw [hkeys] at hn
    cases hn

theorem heard_minedNonce (address : Address) : (c.minedNonce address).Heard :=
  c.heard_first _ rfl

theorem heard_balance (address : Address) : (c.balance address).Heard := c.heard_first _ rfl

theorem heard_tokenDecimals (token : Address) (block : Option UInt64) :
    (c.tokenDecimals token block).Heard :=
  .bind (c.heard_first _ rfl) fun _ => Run.onlyReads_ofResult _

theorem heard_packCall (contract : Address) (method : String) (args : List Abi.Value) :
    (c.packCall contract method args).Heard :=
  .bind (.bind (Run.heard_record rfl) fun _ => Run.onlyReads_ofResult _)
    fun _ => Run.onlyReads_ofResult _

theorem admits_recommendedGasPrice : c.recommendedGasPrice.Admits := by
  unfold recommendedGasPrice
  split
  · exact (Run.Heard.bind (c.heard_first _ rfl) fun _ => Run.onlyReads_pure _).toAdmits
  · exact c.oracle.admits_recommended

/-- The nonce of a wish, or that of the next transaction of the sender. -/
def nonceFor (sender : Address) (w : Wish) : Run UInt64 :=
  match w.nonce with
  | some nonce => pure nonce
  | none => c.minedNonce sender

/-- The price of a wish, or the one that is recommended. -/
def priceFor (w : Wish) : Run Binary64 :=
  match w.gasPriceGwei with
  | some gwei => pure gwei
  | none => c.recommendedGasPrice

/-- What composing goes through, one step after the other. -/
theorem compose_eq (sender : Address) (w : Wish) :
    c.compose sender w = do
      Run.ofResult (w.check.mapError .validation)
      let data ← c.calldata w
      let nonce ← c.nonceFor sender w
      let gwei ← c.priceFor w
      let gasLimit ← c.gasLimit sender w gwei data
      let gasPrice ← Run.ofResult ((Units.gweiToWeiPrice gwei).mapError .ofAmount)
      return { nonce, to_ := w.to_, value := w.value, gasLimit, gasPrice, data } := by
  unfold compose nonceFor priceFor
  cases w.nonce <;> cases w.gasPriceGwei <;> rfl

end Client

/-- Value is moved and nothing else is done. -/
def Wish.IsTransfer (w : Wish) : Prop := w.payload = .empty ∧ w.to_.isSome = true

/-- The events that finding out what a wish leaves open is worth. -/
inductive Wish.Needs (w : Wish) (sender : Address) : Event → Prop
  | interface (method : String) (args : List Abi.Value) (contract : Address)
      (hpayload : w.payload = .call method args) (hto : w.to_ = some contract) :
    Needs w sender (.interfaceFetched contract)
  | nonce (node : String) (hopen : w.nonce = none) :
    Needs w sender (.asked node (.nonce sender .mined))
  | nodePrice (node : String) (hopen : w.gasPriceGwei = none) :
    Needs w sender (.asked node .gasPrice)
  | feedPrice (hopen : w.gasPriceGwei = none) : Needs w sender .feedRead
  | limit (node : String) (gasPrice : BitVec 128) (data : Bytes) (hopen : w.gasLimit = none)
      (hmore : ¬w.IsTransfer) :
    Needs w sender (.asked node (.estimateGas ⟨sender, w.to_, gasPrice, w.value, data⟩))

theorem Wish.Needs.isRead {w : Wish} {sender : Address} {e : Event} (h : w.Needs sender e) :
    e.isRead = true := by
  cases h <;> rfl

namespace Client

variable (c : Client) (sender : Address) (w : Wish)

/-- A limit that is open is that of a transfer, or an estimate. -/
theorem gasLimit_cases (gwei : Binary64) (data : Bytes) :
    (∃ limit, w.gasLimit = some limit ∧ c.gasLimit sender w gwei data = pure limit) ∨
    (w.gasLimit = none ∧ w.IsTransfer ∧ c.gasLimit sender w gwei data = pure 21000) ∨
    (w.gasLimit = none ∧ ¬w.IsTransfer ∧
      c.gasLimit sender w gwei data = c.estimateGas sender w.to_ gwei w.value data) := by
  unfold gasLimit Wish.IsTransfer
  split
  · next limit hwished => exact .inl ⟨limit, hwished, rfl⟩
  · next hopen hpayload hto => exact .inr (.inl ⟨hopen, by simp [hpayload, hto], rfl⟩)
  · next hopen hmore =>
    refine .inr (.inr ⟨hopen, ?_, rfl⟩)
    rintro ⟨hpayload, hto⟩
    obtain ⟨contract, hto⟩ := Option.isSome_iff_exists.1 hto
    exact hmore contract hpayload hto

theorem leaves_recommendedGasPrice {P : Event → Prop} (hasked : ∀ node, P (.asked node .gasPrice))
    (hread : P .feedRead) : c.recommendedGasPrice.Leaves P := by
  unfold recommendedGasPrice
  split
  · exact .bind (c.leaves_first _ hasked) fun _ => Run.leaves_pure _
  · exact GasOracle.leaves_recommended hread c.oracle

theorem leaves_calldata : (c.calldata w).Leaves (w.Needs sender) := by
  unfold calldata
  split
  · exact Run.leaves_pure _
  · exact Run.leaves_pure _
  · exact Run.leaves_fail _
  · next method args contract hpayload hto =>
    exact .bind (.bind (Run.leaves_record (.interface method args contract hpayload hto))
      fun _ => Run.leaves_ofResult _) fun _ => Run.leaves_ofResult _

theorem leaves_nonceFor : (c.nonceFor sender w).Leaves (w.Needs sender) := by
  unfold nonceFor
  split
  · exact Run.leaves_pure _
  · next hopen => exact c.leaves_first _ fun node => .nonce node hopen

theorem leaves_priceFor : (c.priceFor w).Leaves (w.Needs sender) := by
  unfold priceFor
  split
  · exact Run.leaves_pure _
  · next hopen =>
    exact c.leaves_recommendedGasPrice (fun node => .nodePrice node hopen) (.feedPrice hopen)

theorem leaves_gasLimit (gwei : Binary64) (data : Bytes) :
    (c.gasLimit sender w gwei data).Leaves (w.Needs sender) := by
  rcases c.gasLimit_cases sender w gwei data with ⟨limit, -, heq⟩ | ⟨-, -, heq⟩ |
    ⟨hopen, hmore, heq⟩
  · rw [heq]
    exact Run.leaves_pure _
  · rw [heq]
    exact Run.leaves_pure _
  · rw [heq]
    exact .bind (Run.leaves_ofResult _) fun gasPrice =>
      c.leaves_first _ fun node => .limit node gasPrice data hopen hmore

/-- **Composing a transaction reads what it needs**, and does nothing else. -/
theorem leaves_compose : (c.compose sender w).Leaves (w.Needs sender) := by
  rw [compose_eq]
  exact .bind (Run.leaves_ofResult _) fun _ => .bind (c.leaves_calldata sender w) fun data =>
    .bind (c.leaves_nonceFor sender w) fun nonce => .bind (c.leaves_priceFor sender w) fun gwei =>
    .bind (c.leaves_gasLimit sender w gwei data) fun gasLimit =>
    .bind (Run.leaves_ofResult _) fun gasPrice => Run.leaves_pure _

theorem onlyReads_compose : (c.compose sender w).OnlyReads :=
  ((c.leaves_compose sender w).mono fun _ => Wish.Needs.isRead).onlyReads

end Client

end NodeFleet

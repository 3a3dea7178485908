/-
  Payments in tokens.

  * `Token.places?`: the number of places that return data give, the whole word.
    `readDecimals_eq_ok_iff`, `readDecimals_eq_error_iff`: what is read of it.
  * `UnsignedTransaction.Pays`: a transaction that transfers units of a token.
  * `Account.sendUnits`: what is left to do when the units are known; `sendUnits_pays`.
  * `sendToken_scales`: a payment is scaled by the low byte of what the token says, which is all of
    it below 256 only.
-/
import NodeFleet.Proofs.Composing
import NodeFleet.Proofs.Transfer

namespace NodeFleet

/-! ## Numbers of places -/

namespace Token

/-- The number of places that return data give: their first word, all of it. -/
def places? (output : Bytes) : Option ℕ :=
  if 32 ≤ output.length then some (beValue (output.take 32)) else none

variable {output : Bytes}

theorem places?_eq_some_iff {p : ℕ} :
    places? output = some p ↔ 32 ≤ output.length ∧ beValue (output.take 32) = p := by
  simp [places?]

theorem places?_eq_none_iff : places? output = none ↔ output.length < 32 := by simp [places?]

theorem places?_lt {p : ℕ} (h : places? output = some p) : p < 2 ^ 256 := by
  obtain ⟨hlength, rfl⟩ := places?_eq_some_iff.1 h
  have hlt := beValue_lt (output.take 32)
  rwa [List.length_take, Nat.min_eq_left hlength] at hlt

theorem readDecimals_of_some {p : ℕ} (h : places? output = some p) :
    readDecimals output = .ok (UInt8.ofNat (p % 256)) := by
  have hp : (BitVec.ofNat 256 p).toNat = p := Nat.mod_eq_of_lt (places?_lt h)
  obtain ⟨hlength, hvalue⟩ := places?_eq_some_iff.1 h
  have hword : firstWord output = .ok (BitVec.ofNat 256 p) := by
    rw [firstWord, Abi.Frame.word, if_pos (show 0 + 32 ≤ output.length by omega),
      List.drop_zero, wordOfBytes, hvalue]
  simp only [readDecimals, hword, hp]

theorem readDecimals_of_none (h : places? output = none) :
    readDecimals output = .error (.decimals .overrun) := by
  have hshort := places?_eq_none_iff.1 h
  have hword : firstWord output = .error .overrun := by
    rw [firstWord, Abi.Frame.word, if_neg (show ¬0 + 32 ≤ output.length by omega)]
  simp only [readDecimals, hword]

/-- What is read is the low byte of the word. -/
theorem readDecimals_eq_ok_iff {n : UInt8} :
    readDecimals output = .ok n ↔ ∃ p, places? output = some p ∧ n.toNat = p % 256 := by
  have hbyte (p : ℕ) : (UInt8.ofNat (p % 256)).toNat = p % 256 := by simp
  cases h : places? output with
  | none => simp [readDecimals_of_none h]
  | some p =>
    rw [readDecimals_of_some h]
    constructor
    · rintro ⟨⟩
      exact ⟨p, rfl, hbyte p⟩
    · rintro ⟨_, ⟨⟩, hn⟩
      rw [UInt8.toNat_inj.1 (hn.trans (hbyte p).symm)]

theorem readDecimals_eq_error_iff {e : DecodeError} :
    readDecimals output = .error e ↔ places? output = none ∧ e = .decimals .overrun := by
  cases h : places? output with
  | none => simp [readDecimals_of_none h, eq_comm]
  | some p => simp [readDecimals_of_some h]

end Token

/-! ## Payments -/

/-- A transaction that transfers units of a token, and no value beside them. -/
structure UnsignedTransaction.Pays (tx : UnsignedTransaction) (token to_ : Address)
    (units : Word) : Prop where
  called : tx.to_ = some token
  value : tx.value = 0
  data : tx.data = Token.transfer to_ units

namespace Account

variable (a : Account) (token to_ : Address)

/-- The wish to transfer units of a token. -/
def tokenWish (nonce : UInt64) (gwei : Binary64) (units : Word) : Wish :=
  ⟨some token, 0, some nonce, some gwei, none, .raw (Token.transfer to_ units)⟩

/-- What is left to do when the units are known. -/
def sendUnits (units : Word) : Run Sent := do
  let nonce ← a.minedNonce
  let gwei ← a.client.recommendedGasPrice
  a.fulfil (tokenWish token to_ nonce gwei units)

theorem sendToken_eq (amount : Binary64) :
    a.sendToken token amount to_ = (do
      let output ← a.client.call token Token.decimals none
      let decimals ← Run.ofResult ((Token.readDecimals output).mapError .decode)
      let units ← Run.ofResult ((Units.toFixedPoint amount decimals).mapError .ofAmount)
      a.sendUnits token to_ units) := by
  simp only [sendToken, Client.tokenDecimals, bind_assoc]
  rfl

variable {token to_} {nonce : UInt64} {gwei amount : Binary64} {units : Word} {output : Bytes}
  {n : UInt8} {s s' : Session}

/-- An answer from which no number of places is read ends the payment. -/
theorem outcome_sendToken_of_unread {e : DecodeError}
    (hcall : (a.client.call token Token.decimals none).outcome s = (.ok output, s'))
    (hread : Token.readDecimals output = .error e) :
    (a.sendToken token amount to_).outcome s = (.error (.decode e), s') := by
  simp only [sendToken_eq, Run.outcome_bind, hcall, hread]
  rfl

theorem outcome_sendToken
    (hcall : (a.client.call token Token.decimals none).outcome s = (.ok output, s'))
    (hread : Token.readDecimals output = .ok n) :
    (a.sendToken token amount to_).outcome s = (do
      let units ← Run.ofResult ((Units.toFixedPoint amount n).mapError .ofAmount)
      a.sendUnits token to_ units : Run Sent).outcome s' := by
  simp only [sendToken_eq, Run.outcome_bind, hcall, hread]
  rfl

theorem pays_of_compose {tx : UnsignedTransaction}
    (h : (a.client.compose a.address (tokenWish token to_ nonce gwei units)).outcome s =
      (.ok tx, s')) : tx.Pays token to_ units := by
  have hvalid : (tokenWish token to_ nonce gwei units).check = .ok () := by
    refine Wish.check_eq_ok_iff.2 fun hinvalid => ?_
    obtain ⟨e, he⟩ := a.client.compose_refuses hinvalid a.address s
    rw [h] at he
    cases he
  cases (Client.compose_iff hvalid).1 h with
  | composed _ _ h =>
    obtain ⟨hto, hvalue, _, _, _, _, hpacks, -⟩ := h
    have hdata : (Except.ok (Token.transfer to_ units), s) = (.ok tx.data, _) :=
      (Client.packs_iff hvalid).2 hpacks
    exact ⟨hto, hvalue, (Except.ok.inj (Prod.mk.inj hdata).1).symm⟩

variable (token to_ units) in
/-- Units are not paid, after reads alone; or a transaction that pays them is signed and sent. -/
theorem sendUnits_pays (s : Session) :
    (∃ e t, s.ReadsTo t ∧ (a.sendUnits token to_ units).outcome s = (.error e, t)) ∨
    ∃ tx composed r t trace, tx.Pays token to_ units ∧ s.ReadsTo composed ∧
      (a.sendUnits token to_ units).outcome s = (r, t) ∧ t.events = composed.events ++ trace ∧
      a.Handed tx r trace := by
  have hsteps : a.sendUnits token to_ units =
      (do return tokenWish token to_ (← a.minedNonce) (← a.client.recommendedGasPrice) units) >>=
        a.fulfil := by
    simp only [sendUnits, bind_assoc, pure_bind]
  have hnext := a.heard_next fun nonce gwei => tokenWish token to_ nonce gwei units
  rw [hsteps]
  rcases a.outcome_bind_fulfil hnext.reads s with
    h | ⟨w, before, tx, composed, hwish, hcompose, hreads, h⟩
  · exact .inl h
  obtain ⟨-, -, ⟨⟩⟩ | ⟨nonce, counted, -, hwish⟩ := Run.outcome_bind_eq_iff.1 hwish
  obtain ⟨-, -, ⟨⟩⟩ | ⟨gwei, priced, -, hwish⟩ := Run.outcome_bind_eq_iff.1 hwish
  cases hwish
  obtain ⟨r, t, trace, hsigned, hevents, hhanded⟩ := a.handed_signAndSend tx composed
  exact .inr ⟨tx, composed, r, t, trace, a.pays_of_compose hcompose, hreads, h.trans hsigned,
    hevents, hhanded⟩

/-- **A payment is scaled by what the token says, as far as it is read.** A number of places is read
    from any data of a word or more, and it is the low byte of this word: all of it if and only if
    it is less than 256. The units that are paid are the amount in as many places, and nothing else
    is signed. Without an answer, without a word in it or without units nothing but reads has
    happened. -/
theorem sendToken_scales (a : Account) (token to_ : Address) (amount : Binary64) (s : Session) :
    (∀ output n, Token.readDecimals output = .ok n ↔
      ∃ p, Token.places? output = some p ∧ n.toNat = p % 256) ∧
    (∀ output e, Token.readDecimals output = .error e ↔
      Token.places? output = none ∧ e = .decimals .overrun) ∧
    (∀ output p, Token.places? output = some p →
      ((∃ n, Token.readDecimals output = .ok n ∧ n.toNat = p) ↔ p < 256)) ∧
    s.ReadsTo ((a.client.call token Token.decimals none).outcome s).2 ∧
    (∀ e s', (a.client.call token Token.decimals none).outcome s = (.error e, s') →
      (a.sendToken token amount to_).outcome s = (.error e, s')) ∧
    ∀ output s', (a.client.call token Token.decimals none).outcome s = (.ok output, s') →
      (Token.places? output = none →
        (a.sendToken token amount to_).outcome s = (.error (.decode (.decimals .overrun)), s')) ∧
      ∀ p (n : UInt8), Token.places? output = some p → n.toNat = p % 256 →
        (∀ e, Units.toFixedPoint amount n = .error e →
          (a.sendToken token amount to_).outcome s = (.error (.ofAmount e), s')) ∧
        ∀ units, Units.toFixedPoint amount n = .ok units →
          (∃ e t, s.ReadsTo t ∧ (a.sendToken token amount to_).outcome s = (.error e, t)) ∨
          ∃ tx composed r t trace, tx.Pays token to_ units ∧ s.ReadsTo composed ∧
            (a.sendToken token amount to_).outcome s = (r, t) ∧
            t.events = composed.events ++ trace ∧ a.Handed tx r trace := by
  have hreads : s.ReadsTo ((a.client.call token Token.decimals none).outcome s).2 :=
    (a.client.heard_first "call_contract" rfl).reads s
  refine ⟨fun output n => Token.readDecimals_eq_ok_iff,
    fun output e => Token.readDecimals_eq_error_iff, fun output p hp => ?_, hreads,
    fun e s' hcall => ?_, fun output s' hcall => ⟨fun hnone => ?_, fun p n hp hn => ?_⟩⟩
  · simp only [Token.readDecimals_eq_ok_iff, hp, Option.some.injEq, exists_eq_left']
    constructor
    · rintro ⟨n, -, rfl⟩
      exact n.toNat_lt
    · intro hlt
      have hbyte : (UInt8.ofNat p).toNat = p := UInt8.toNat_ofNat_of_lt' hlt
      exact ⟨UInt8.ofNat p, by rw [hbyte, Nat.mod_eq_of_lt hlt], hbyte⟩
  · rw [sendToken_eq, Run.outcome_bind, hcall]
  · exact a.outcome_sendToken_of_unread hcall (Token.readDecimals_of_none hnone)
  · rw [a.outcome_sendToken hcall (Token.readDecimals_eq_ok_iff.2 ⟨p, hp, hn⟩)]
    rw [hcall] at hreads
    refine ⟨fun e he => by rw [he]; rfl, fun units hunits => ?_⟩
    rw [hunits, Except.mapError, Run.ofResult_ok_bind]
    rcases a.sendUnits_pays token to_ units s' with ⟨e, t, ht, h⟩ |
      ⟨tx, composed, r, t, trace, hpays, hcomposed, h, hevents, hhanded⟩
    · exact .inl ⟨e, t, hreads.trans ht, h⟩
    · exact .inr ⟨tx, composed, r, t, trace, hpays, hreads.trans hcomposed, h, hevents, hhanded⟩

end Account

/-- A node that tells at once what every contract returns, and all else that a payment takes. -/
def Node.returning (name : String) (output : Bytes) : Node where
  name
  serve _ r :=
    match r with
    | .call _ _ _ => ⟨0, some (.ok output)⟩
    | .nonce _ _ => ⟨0, some (.ok 7)⟩
    | .gasPrice => ⟨0, some (.ok 1000000000)⟩
    | .estimateGas _ => ⟨0, some (.ok 50000)⟩
    | _ => ⟨0, none⟩

namespace Account

/-- An account over one such node, whose signatures all succeed. -/
def returned (output : Bytes) : Account where
  signer := ⟨.zero, signAnything⟩
  client := .ofSorted [.returning "a" output] (List.pairwise_singleton _ _)
  broadcaster := ⟨[], 4000⟩

theorem call_returned (output : Bytes) (token : Address) (s : Session) :
    ∃ s', ((returned output).client.call token Token.decimals none).outcome s = (.ok output, s') :=
  Client.outcome_first_of_single rfl _

theorem sendUnits_returned (output : Bytes) (token to_ : Address) (units : Word) (s : Session) :
    ∃ sent t, ((returned output).sendUnits token to_ units).outcome s = (.ok sent, t) ∧
      sent.transaction.unsigned.Pays token to_ units := by
  have hone : Units.ofFixedPoint ((1000000000 : BitVec 128).setWidth 256) Units.gweiDecimals =
      ⟨0x3FF0000000000000⟩ := by decide +kernel
  have hwei : Units.gweiToWeiPrice ⟨0x3FF0000000000000⟩ = .ok 1000000000 := by decide +kernel
  have hvalid : (tokenWish token to_ 7 ⟨0x3FF0000000000000⟩ units).check = .ok () := rfl
  have hmore : ¬(tokenWish token to_ 7 ⟨0x3FF0000000000000⟩ units).IsTransfer := by
    rintro ⟨⟨⟩, -⟩
  obtain ⟨counted, hnonce⟩ : ∃ t, (returned output).minedNonce.outcome s = (.ok 7, t) :=
    Client.outcome_first_of_single rfl _
  obtain ⟨priced, hasked⟩ : ∃ t, (returned output).client.nodeGasPrice.outcome counted =
      (.ok 1000000000, t) :=
    Client.outcome_first_of_single rfl _
  have hprice : (returned output).client.recommendedGasPrice.outcome counted =
      (.ok ⟨0x3FF0000000000000⟩, priced) := by
    have hsteps : (returned output).client.recommendedGasPrice = (do
        let wei ← (returned output).client.nodeGasPrice
        return Units.ofFixedPoint (wei.setWidth 256) Units.gweiDecimals) := rfl
    simp only [hsteps, Run.outcome_bind, hasked, hone]
    rfl
  obtain ⟨composed, hgas⟩ := Client.outcome_first_of_single (n := .returning "a" output)
    (r := .estimateGas ⟨.zero, some token, 1000000000, 0, Token.transfer to_ units⟩)
    (s := priced) (a := (50000 : UInt64)) rfl "estimate_gas"
  have hcompose : ((returned output).client.compose .zero
      (tokenWish token to_ 7 ⟨0x3FF0000000000000⟩ units)).outcome priced =
        (.ok ⟨7, some token, 0, 50000, 1000000000, Token.transfer to_ units⟩, composed) :=
    (Client.compose_iff hvalid).2 (.composed _ composed ⟨rfl, rfl, priced, priced, priced, _,
      .raw _ rfl, .given _ rfl, .given _ rfl, hwei, .estimated _ composed rfl hmore hgas⟩)
  have haddress : (returned output).address = .zero := rfl
  simp only [sendUnits, fulfil, Run.outcome_bind, hnonce, hprice, haddress, hcompose,
    outcome_signAndSend]
  exact ⟨_, _, rfl, rfl, rfl, rfl⟩

theorem sendToken_returned {output : Bytes} {amount : Binary64} {n : UInt8} {units : Word}
    (hread : Token.readDecimals output = .ok n) (hunits : Units.toFixedPoint amount n = .ok units)
    (token to_ : Address) (s : Session) :
    ∃ sent t, ((returned output).sendToken token amount to_).outcome s = (.ok sent, t) ∧
      sent.transaction.unsigned.Pays token to_ units := by
  obtain ⟨s', hcall⟩ := call_returned output token s
  obtain ⟨sent, t, hsent, hpays⟩ := sendUnits_returned output token to_ units s'
  refine ⟨sent, t, ?_, hpays⟩
  rw [outcome_sendToken _ hcall hread, hunits, ← hsent]
  rfl

/-- One and a half. -/
def oneAndHalf : Binary64 := ⟨0x3FF8000000000000⟩

theorem toFixedPoint_oneAndHalf : Units.toFixedPoint oneAndHalf 6 = .ok 1500000 := by decide +kernel

/-- One and a half of a token with six places are 1500000 units; a token that answers with nothing
    is not paid. -/
theorem sendToken_scales_of_six :
    (∃ sent t, ((returned (wordBytes 6)).sendToken .zero oneAndHalf .zero).outcome .start =
      (.ok sent, t) ∧ sent.transaction.unsigned.Pays .zero .zero 1500000) ∧
    ∃ t, ((returned []).sendToken .zero oneAndHalf .zero).outcome .start =
      (.error (.decode (.decimals .overrun)), t) ∧ Session.start.ReadsTo t := by
  constructor
  · obtain ⟨s', hcall⟩ := call_returned (wordBytes 6) .zero .start
    obtain ⟨hreads, -, -, -, -, hanswered⟩ :=
      sendToken_scales (returned (wordBytes 6)) .zero .zero oneAndHalf .start
    have hread : Token.readDecimals (wordBytes 6) = .ok 6 :=
      (hreads _ 6).2 ⟨6, by decide, by decide⟩
    obtain ⟨sent, t, hsent, -⟩ :=
      sendToken_returned hread toFixedPoint_oneAndHalf .zero .zero .start
    refine ⟨sent, t, hsent, ?_⟩
    have hunits := ((hanswered _ s' hcall).2 6 6 (by decide) (by decide)).2 _
      toFixedPoint_oneAndHalf
    rcases hunits with ⟨e, t', -, h⟩ | ⟨tx, composed, r, t', trace, hpays, -, h, -, hhanded⟩
    all_goals
      rw [hsent] at h
      cases h
    have hfaithful : (returned (wordBytes 6)).signer.Faithful := by
      rintro tx signed ⟨⟩
      rfl
    rwa [hhanded.unsigned hfaithful]
  · obtain ⟨s', hcall⟩ := call_returned [] .zero .start
    obtain ⟨-, -, -, hreads, -, hanswered⟩ :=
      sendToken_scales (returned []) .zero .zero oneAndHalf .start
    rw [hcall] at hreads
    exact ⟨s', (hanswered [] s' hcall).1 rfl, hreads⟩

/-- A token that says it has 262 places is paid as one with six. -/
theorem sendToken_drops_high_bytes :
    Token.places? (wordBytes 262) = some 262 ∧ Token.readDecimals (wordBytes 262) = .ok 6 ∧
    ∃ sent t, ((returned (wordBytes 262)).sendToken .zero oneAndHalf .zero).outcome .start =
      (.ok sent, t) ∧ sent.transaction.unsigned.Pays .zero .zero 1500000 := by
  have hplaces : Token.places? (wordBytes 262) = some 262 := by decide
  have hread : Token.readDecimals (wordBytes 262) = .ok 6 := Token.readDecimals_of_some hplaces
  exact ⟨hplaces, hread, sendToken_returned hread toFixedPoint_oneAndHalf .zero .zero .start⟩

end Account

end NodeFleet

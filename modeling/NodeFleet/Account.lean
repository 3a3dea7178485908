/-
  Sending from one account.

  * `Account`: who signs, the fleet that is read from, and the nodes that are sent to.
  * `Account.signAndSend`: the only place where something is signed or sent; everything above it
    ends in it or fails without having signed anything.
  * `Account.sendEth`, `Account.sendAll`, `Account.sendMany`, `Account.sendToken`,
    `Account.callContract`: transfers of value, of tokens, and contract calls.
-/
import NodeFleet.Broadcaster
import NodeFleet.Composer
import NodeFleet.Transaction.Signer

namespace NodeFleet

/-- A signed transaction and what came of sending it. -/
structure Sent where
  transaction : SignedTransaction
  outcome : BroadcastOutcome

/-- A short account of it, as a document. -/
def Sent.summary (s : Sent) : Json := s.outcome.toJson

structure Account where
  signer : Signer
  client : Client
  broadcaster : Broadcaster

namespace Account

def address (a : Account) : Address := a.signer.address

def minedNonce (a : Account) : Run UInt64 := a.client.minedNonce a.address

def pendingNonce (a : Account) : Run UInt64 := a.client.pendingNonce a.address

/-- The nonces of transactions that are sent and not yet mined. -/
def pendingNonces (a : Account) : Run (List UInt64) := do
  let mined ← a.minedNonce
  let pending ← a.pendingNonce
  return (List.range' mined.toNat (pending.toNat - mined.toNat)).map UInt64.ofNat

def signAndSend (a : Account) (tx : UnsignedTransaction) : Run Sent := do
  Run.record (.signatureAsked tx)
  let transaction ← Run.ofResult (a.signer.sign tx)
  let outcome ← a.broadcaster.send transaction
  return ⟨transaction, outcome⟩

/-- Composes, signs and sends. -/
def fulfil (a : Account) (w : Wish) : Run Sent := do
  let tx ← a.client.compose a.address w
  a.signAndSend tx

/-! ## Value -/

def ether (amount : Binary64) : Result Word := (Units.ethToWei amount).mapError .ofAmount

/-- Sends an amount of wei at a given nonce and price. -/
def sendWei (a : Account) (nonce : UInt64) (gwei : Binary64) (amount : Word) (to_ : Address) :
    Run Sent :=
  a.fulfil { Wish.transfer to_ amount with
    nonce := some nonce
    gasPriceGwei := some gwei
    gasLimit := some transferGas }

def sendEth (a : Account) (amount : Binary64) (to_ : Address) : Run Sent := do
  let wei ← Run.ofResult (ether amount)
  let nonce ← a.minedNonce
  let gwei ← a.client.recommendedGasPrice
  a.sendWei nonce gwei wei to_

/-- What is left of a balance when a transfer's fee is paid; nothing is no amount to send. -/
def leftover (balance price : Word) : Option Word :=
  let fee := BitVec.ofNat 256 transferGas.toNat * price
  if fee < balance then some (balance - fee) else none

/-- Sends all there is, at a given price. -/
def sendAllAt (a : Account) (gwei : Binary64) (to_ : Address) : Run Sent := do
  let nonce ← a.minedNonce
  let balance ← a.client.balance a.address
  let price ← Run.ofResult ((Units.gweiToWei gwei).mapError .ofAmount)
  match leftover balance price with
  | none => Run.fail (.validation (.feeNotCovered gwei))
  | some amount => a.sendWei nonce gwei amount to_

def sendAll (a : Account) (to_ : Address) : Run Sent := do
  let gwei ← a.client.recommendedGasPrice
  a.sendAllAt gwei to_

/-! ## Many transfers -/

def checkLengths (amounts : List Binary64) (addresses : List Address) :
    Except ValidationError Unit :=
  if amounts.length = addresses.length then .ok ()
  else .error (.lengthsDiffer amounts.length addresses.length)

/-- Transfers at consecutive nonces; one that fails does not stop those after it. -/
def sendEach (a : Account) (gwei : Binary64) (nonce : UInt64) :
    List (Word × Address) → StateM Session (List (Result Sent))
  | [] => return []
  | (amount, to_) :: rest => do
    let sent ← (a.sendWei nonce gwei amount to_).attempt
    let others ← a.sendEach gwei (nonce + 1) rest
    return sent :: others

def sendManyAt (a : Account) (gwei : Binary64) (amounts : List Binary64)
    (addresses : List Address) : Run (List (Result Sent)) := do
  Run.ofResult ((checkLengths amounts addresses).mapError .validation)
  let wei ← Run.ofResult (amounts.mapM ether)
  let nonce ← a.minedNonce
  a.sendEach gwei nonce (wei.zip addresses)

def sendMany (a : Account) (amounts : List Binary64) (addresses : List Address) :
    Run (List (Result Sent)) := do
  Run.ofResult ((checkLengths amounts addresses).mapError .validation)
  let gwei ← a.client.recommendedGasPrice
  a.sendManyAt gwei amounts addresses

/-! ## Tokens and contracts -/

/-- Sends an amount of tokens, counted in the places that the token says it has. -/
def sendToken (a : Account) (token : Address) (amount : Binary64) (to_ : Address) : Run Sent := do
  let decimals ← a.client.tokenDecimals token none
  let units ← Run.ofResult ((Units.toFixedPoint amount decimals).mapError .ofAmount)
  let nonce ← a.minedNonce
  let gwei ← a.client.recommendedGasPrice
  a.fulfil {
    to_ := some token
    value := 0
    nonce := some nonce
    gasPriceGwei := some gwei
    gasLimit := none
    payload := .raw (Token.transfer to_ units) }

/-- Calls a method at a given nonce and price. -/
def callContractAt (a : Account) (nonce : UInt64) (gwei amount : Binary64) (contract : Address)
    (method : String) (args : List Abi.Value) : Run Sent := do
  let value ← Run.ofResult (ether amount)
  a.fulfil {
    to_ := some contract
    value
    nonce := some nonce
    gasPriceGwei := some gwei
    gasLimit := none
    payload := .call method args }

def callContractPriced (a : Account) (gwei amount : Binary64) (contract : Address)
    (method : String) (args : List Abi.Value) : Run Sent := do
  let nonce ← a.minedNonce
  a.callContractAt nonce gwei amount contract method args

def callContract (a : Account) (amount : Binary64) (contract : Address) (method : String)
    (args : List Abi.Value) : Run Sent := do
  let gwei ← a.client.recommendedGasPrice
  a.callContractPriced gwei amount contract method args

end Account

end NodeFleet

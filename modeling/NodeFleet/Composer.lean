/-
  Transactions from what a sender wants.

  * `Wish`: what to send; what it leaves open is found out from the chain.
  * `Wish.check`: refuses what cannot become a transaction, before anything is read.
  * `Client.compose`: fills in calldata, nonce, gas price and gas limit, in this order.
-/
import NodeFleet.Client

namespace NodeFleet

/-- What a transaction carries. -/
inductive Payload where
  /-- Nothing: value alone is sent. -/
  | empty
  | raw (data : Bytes)
  /-- A call by the destination's published interface. -/
  | call (method : String) (args : List Abi.Value)

/-- A transaction of which some fields may be open. -/
structure Wish where
  /-- Without a destination a contract is created. -/
  to_ : Option Address
  value : Word
  nonce : Option UInt64
  gasPriceGwei : Option Binary64
  gasLimit : Option UInt64
  payload : Payload

namespace Wish

/-- A transfer of value in which everything else is open. -/
def transfer (to_ : Address) (value : Word) : Wish := ⟨some to_, value, none, none, none, .empty⟩

def checkPrice (gwei : Binary64) : Except ValidationError Unit :=
  if gwei.isFinite && !gwei.isNegative then .ok () else .error (.gasPrice gwei)

def checkDestination (w : Wish) : Except ValidationError Unit :=
  match w.payload, w.to_ with
  | .call _ _, none => .error .noDestination
  | _, _ => .ok ()

def check (w : Wish) : Except ValidationError Unit := do
  if let some gwei := w.gasPriceGwei then checkPrice gwei
  w.checkDestination

end Wish

/-- The gas that a transfer of value takes. -/
def transferGas : UInt64 := 21000

namespace Client

/-- The calldata of a method of a contract, by its published interface. -/
def packCall (c : Client) (contract : Address) (method : String) (args : List Abi.Value) :
    Run Bytes := do
  let interface ← c.interface contract
  Run.ofResult ((interface.encodeCall method args).mapError (.encode ∘ .call))

/-- The calldata that a wish means. -/
def calldata (c : Client) (w : Wish) : Run Bytes := do
  match w.payload, w.to_ with
  | .empty, _ => return []
  | .raw data, _ => return data
  | .call _ _, none => Run.fail (.validation .noDestination)
  | .call method args, some contract => c.packCall contract method args

/-- The gas limit of a wish: as it says, that of a transfer, or as nodes estimate it. -/
def gasLimit (c : Client) (sender : Address) (w : Wish) (gwei : Binary64) (data : Bytes) :
    Run UInt64 := do
  match w.gasLimit, w.payload, w.to_ with
  | some limit, _, _ => return limit
  | none, .empty, some _ => return transferGas
  | none, _, to_ => c.estimateGas sender to_ gwei w.value data

/-- The transaction that a sender wishes for. -/
def compose (c : Client) (sender : Address) (w : Wish) : Run UnsignedTransaction := do
  Run.ofResult (w.check.mapError .validation)
  let data ← c.calldata w
  let nonce ← match w.nonce with
    | some nonce => pure nonce
    | none => c.minedNonce sender
  let gwei ← match w.gasPriceGwei with
    | some gwei => pure gwei
    | none => c.recommendedGasPrice
  let gasLimit ← c.gasLimit sender w gwei data
  let gasPrice ← Run.ofResult ((Units.gweiToWeiPrice gwei).mapError .ofAmount)
  return { nonce, to_ := w.to_, value := w.value, gasLimit, gasPrice, data }

end Client

end NodeFleet

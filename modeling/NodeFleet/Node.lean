/-
  Nodes and what they are asked.

  * `Request`: what a node can be asked, and `Request.Answer`, the type of the answer.
  * `Delayed`: a value that takes its time.
  * `Attempt`: when and how a call is answered; without an outcome the call dies and nothing is
    ever heard of it.
  * `Node`: a name, and for each moment and request when and how the node answers.
-/
import NodeFleet.Error
import NodeFleet.Json
import NodeFleet.Report
import NodeFleet.Text.Duration

namespace NodeFleet

/-- A value that is there after a delay. -/
structure Delayed (α : Type) where
  delay : Millis
  value : α

/-- Which transactions of an account are counted. -/
inductive NonceKind where
  | mined
  /-- Those in the node's pool too. -/
  | pending
  deriving DecidableEq

/-- Which events are asked for. -/
structure LogQuery where
  /-- The contracts that emitted them; without any, all. -/
  addresses : List Address
  topic : Option Hash
  fromBlock : UInt64
  /-- Up to the latest block if there is none. -/
  toBlock : Option UInt64
  deriving DecidableEq

/-- A transaction whose gas is estimated. -/
structure GasQuery where
  sender : Address
  /-- Without a destination a contract is created. -/
  to_ : Option Address
  gasPrice : BitVec 128
  value : Word
  data : Bytes
  deriving DecidableEq

/-- What a node can be asked. -/
inductive Request where
  | balance (address : Address)
  | nonce (address : Address) (kind : NonceKind)
  | code (address : Address)
  | transaction (hash : Hash)
  | receipt (hash : Hash)
  | estimateGas (query : GasQuery)
  | gasPrice
  | logs (query : LogQuery)
  /-- The latest block's header without a number. -/
  | header (number : Option UInt64)
  /-- A contract call, at the latest block without a number. -/
  | call (to_ : Address) (data : Bytes) (block : Option UInt64)
  | sendRaw (raw : Bytes)
  | blockNumber
  /-- Any other method, untyped. -/
  | other (method : String) (params : Json)

namespace Request

/-- What answers a request. -/
abbrev Answer : Request → Type
  | .balance _ => Word
  | .nonce _ _ => UInt64
  | .code _ => Bytes
  | .transaction _ => Option ChainTransaction
  | .receipt _ => Option Receipt
  | .estimateGas _ => UInt64
  | .gasPrice => BitVec 128
  | .logs _ => List LogEntry
  | .header _ => BlockHeader
  | .call _ _ _ => Bytes
  | .sendRaw _ => Hash
  | .blockNumber => UInt64
  | .other _ _ => Json

/-- The name of the method that is asked for. -/
def method : Request → String
  | .balance _ => "balance"
  | .nonce _ _ => "nonce"
  | .code _ => "code"
  | .transaction _ => "transaction_by_hash"
  | .receipt _ => "receipt"
  | .estimateGas _ => "estimate_gas"
  | .gasPrice => "gas_price"
  | .logs _ => "logs"
  | .header _ => "header_by_number"
  | .call _ _ _ => "call"
  | .sendRaw _ => "send_raw"
  | .blockNumber => "block_number"
  | .other _ _ => "raw_request"

end Request

/-- A call to a node. It has no outcome if it dies. -/
abbrev Attempt (α : Type) := Delayed (Option (Result α))

/-- A node: when and how it answers what it is asked at a moment. -/
structure Node where
  name : String
  serve : Millis → (r : Request) → Attempt r.Answer

end NodeFleet

/-
  What nodes report about transactions, and what that says about a hash.

  * `ChainTransaction`, `Receipt`, `LogEntry`, `BlockHeader`: reports.
  * `TxInfo`: what is known of a hash. Only a mined transaction has a receipt, and a failed
    look-up has nothing but its text.
  * `TxInfo.status`: the six states of a hash; polling stops at a terminal one.
-/
import NodeFleet.Bytes

namespace NodeFleet

/-- A transaction as a node reports it. -/
structure ChainTransaction where
  hash : Hash
  sender : Address
  to_ : Option Address
  nonce : UInt64
  value : Word
  gasLimit : UInt64
  gasPrice : BitVec 128
  input : Bytes
  /-- None until the transaction is mined. -/
  blockNumber : Option UInt64
  deriving DecidableEq

def ChainTransaction.isPending (tx : ChainTransaction) : Bool := tx.blockNumber.isNone

structure LogEntry where
  address : Address
  topics : List Hash
  data : Bytes
  deriving DecidableEq

/-- The outcome in a receipt. -/
inductive ReceiptStatus where
  | success
  | failure
  /-- Early receipts hold a state root and no outcome. -/
  | postState (root : Hash)
  deriving DecidableEq

structure Receipt where
  status : ReceiptStatus
  gasUsed : UInt64
  logs : List LogEntry
  blockNumber : Option UInt64
  deriving DecidableEq

structure BlockHeader where
  number : UInt64
  hash : Hash
  parentHash : Hash
  timestamp : UInt64
  gasLimit : UInt64
  gasUsed : UInt64
  baseFee : Option UInt64
  deriving DecidableEq

/-- The state of a transaction hash. -/
inductive TxStatus where
  | error
  | notFound
  | pending
  | reverted
  | done
  | lost
  deriving DecidableEq

namespace TxStatus

def name : TxStatus → String
  | .error => "error"
  | .notFound => "notfound"
  | .pending => "pending"
  | .reverted => "reverted"
  | .done => "done"
  | .lost => "lost"

def all : List TxStatus := [.error, .notFound, .pending, .reverted, .done, .lost]

def ofName? (name : String) : Option TxStatus := all.find? (·.name == name)

/-- Whether polling can stop. -/
def isTerminal : TxStatus → Bool
  | .reverted | .done | .lost => true
  | .error | .notFound | .pending => false

end TxStatus

/-- What is known of a transaction hash. -/
inductive TxInfo where
  /-- The look-up itself failed. -/
  | error (text : String)
  | notFound
  | lost
  | pending (tx : ChainTransaction)
  | mined (tx : ChainTransaction) (receipt : Receipt)
  deriving DecidableEq

namespace TxInfo

/-- A mined transaction is done unless its receipt says that it failed. -/
def status : TxInfo → TxStatus
  | .error _ => .error
  | .notFound => .notFound
  | .lost => .lost
  | .pending _ => .pending
  | .mined _ r => if r.status = .failure then .reverted else .done

def transaction? : TxInfo → Option ChainTransaction
  | .pending tx | .mined tx _ => some tx
  | _ => none

def receipt? : TxInfo → Option Receipt
  | .mined _ r => some r
  | _ => none

def error? : TxInfo → Option String
  | .error text => some text
  | _ => none

/-- The fee paid: gas used times gas price. -/
def gasCost? : TxInfo → Option Word
  | .mined tx r => some (BitVec.ofNat 256 (r.gasUsed.toNat * tx.gasPrice.toNat))
  | _ => none

end TxInfo

end NodeFleet

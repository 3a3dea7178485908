/-
  Statuses told beforehand.

  * `ScriptedStatus`: what a poll is answered with.
  * `StatusReader.scripted`: a reader that answers the polls of each hash from a list, in order.
-/
import NodeFleet.Watch

namespace NodeFleet

inductive ScriptedStatus where
  | error
  | notFound
  | lost
  | pending
  | done
  /-- Mined, with a state root for an outcome. -/
  | postState
  | reverted
  /-- The reader dies. -/
  | crash

namespace ScriptedStatus

def ofName? : String → Option ScriptedStatus
  | "error" => some .error
  | "notfound" => some .notFound
  | "lost" => some .lost
  | "pending" => some .pending
  | "done" => some .done
  | "poststate" => some .postState
  | "reverted" => some .reverted
  | "crash" => some .crash
  | _ => none

/-- The transaction that is reported. Its nonce is the number of the poll. -/
def transaction (hash : Hash) (number : Nat) (blockNumber : Option UInt64) : ChainTransaction where
  hash
  sender := Address.zero
  to_ := none
  nonce := UInt64.ofNat number
  value := 0
  gasLimit := 21000
  gasPrice := 7
  input := []
  blockNumber

def mined (hash : Hash) (number : Nat) (status : ReceiptStatus) : TxInfo :=
  .mined (transaction hash number (some 9)) ⟨status, 21000, [], some 9⟩

def info? (hash : Hash) (number : Nat) : ScriptedStatus → Option TxInfo
  | .error => some (.error "scripted failure")
  | .notFound => some .notFound
  | .lost => some .lost
  | .pending => some (.pending (transaction hash number none))
  | .done => some (mined hash number .success)
  | .postState => some (mined hash number (.postState hash))
  | .reverted => some (mined hash number .failure)
  | .crash => none

end ScriptedStatus

/-- Answers the polls of a hash from its list and repeats the last entry; a hash without entries
    is not found. -/
def StatusReader.scripted (entries : Hash → List (Delayed ScriptedStatus)) : StatusReader :=
  fun earlier now hash =>
    let script := entries hash
    let entry := (script[earlier]?.or script.getLast?).getD ⟨0, .notFound⟩
    ⟨now + entry.delay, entry.value.info? hash (earlier + 1), []⟩

end NodeFleet

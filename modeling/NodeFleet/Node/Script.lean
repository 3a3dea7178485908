/-
  Nodes that answer as they are told beforehand.

  * `NodeScript`: how long a node takes, how it fails and what it knows.
  * `NodeScript.node`: the node that follows a script. It waits, then dies, fails or answers;
    what it says of a transaction depends on the moment of the answer.
-/
import NodeFleet.Node

namespace NodeFleet

/-- Settings by the name of a method; `*` stands for every method without its own. -/
abbrev ByMethod (α : Type) := List (String × α)

def ByMethod.get? {α : Type} (m : ByMethod α) (method : String) : Option α :=
  (m.lookup method).or (m.lookup "*")

/-- What a node knows of a transaction from some moment on. -/
structure Sighting where
  hash : Hash
  since : Millis
  transaction : Option ChainTransaction
  receipt : Option Receipt

/-- What a node does. -/
structure NodeScript where
  name : String
  delays : ByMethod Millis
  /-- The methods that the node dies of. -/
  crashes : ByMethod Unit
  failures : ByMethod String
  /-- Failures to reach the node. -/
  breakdowns : ByMethod String
  balance : Word
  minedNonce : UInt64
  pendingNonce : UInt64
  code : Address → Bytes
  gasEstimate : UInt64
  gasPrice : BitVec 128
  blockNumber : UInt64
  baseFee : Option UInt64
  logs : List LogEntry
  /-- Return data by the selector of the call; `*` stands for every other call. -/
  returns : List (String × Bytes)
  sightings : List Sighting

namespace NodeScript

/-- The last sighting of a hash up to a moment. -/
def sighting? (s : NodeScript) (hash : Hash) (time : Millis) : Option Sighting :=
  s.sightings.reverse.find? fun x => x.hash == hash && x.since ≤ time

def header (s : NodeScript) (number : Option UInt64) : BlockHeader where
  number := number.getD s.blockNumber
  hash := Hash.zero
  parentHash := Hash.zero
  timestamp := 0
  gasLimit := 30000000
  gasUsed := 0
  baseFee := s.baseFee

def returnData (s : NodeScript) (data : Bytes) : Bytes :=
  (ByMethod.get? s.returns (Hex.prefixed (data.take 4))).getD []

/-- What a node says at a moment, if it says anything sensible. -/
def answer (s : NodeScript) (time : Millis) : (r : Request) → r.Answer
  | .balance _ => s.balance
  | .nonce _ .mined => s.minedNonce
  | .nonce _ .pending => s.pendingNonce
  | .code address => s.code address
  | .transaction hash => (s.sighting? hash time).bind (·.transaction)
  | .receipt hash => (s.sighting? hash time).bind (·.receipt)
  | .estimateGas _ => s.gasEstimate
  | .gasPrice => s.gasPrice
  | .logs _ => s.logs
  | .header number => s.header number
  | .call _ data _ => s.returnData data
  | .sendRaw raw => Hash.ofKeccak raw
  | .blockNumber => s.blockNumber
  | .other method _ => .obj [("method", .str method), ("node", .str s.name)]

def serve (s : NodeScript) (now : Millis) (r : Request) : Attempt r.Answer :=
  let delay := (s.delays.get? r.method).getD 0
  let value :=
    if (s.crashes.get? r.method).isSome then none
    else
      match s.failures.get? r.method, s.breakdowns.get? r.method with
      | some text, _ => some (.error (.provider s.name text))
      | none, some text => some (.error (.transport text))
      | none, none => some (.ok (s.answer (now + delay) r))
  ⟨delay, value⟩

def node (s : NodeScript) : Node := ⟨s.name, s.serve⟩

end NodeScript

end NodeFleet

/-
  Sending a transaction to every node of a list.

  * `BroadcastOutcome.collect`: what came of it, from what the nodes answered.
  * `Broadcaster.sendRaw`: sends bytes to all nodes at once and waits for every one of them.
  * `Broadcaster.sendHex`: the same for written bytes; malformed ones reach no node.
-/
import NodeFleet.Race
import NodeFleet.Session
import NodeFleet.Text.Blank

namespace NodeFleet

/-- What came of a transaction that was sent to every node. -/
structure BroadcastOutcome where
  /-- The digest of the bytes, whatever the nodes answered. -/
  hash : Hash
  /-- Whether a node took the transaction. -/
  broadcasted : Bool
  /-- What the nodes said that refused it. -/
  errors : NodeErrors

namespace BroadcastOutcome

/-- The nodes that refused, with what they said. -/
def refusals : NodeErrors → List (Delivery Hash) → NodeErrors
  | errors, [] => errors
  | errors, d :: ds =>
    match d.result with
    | .ok _ => refusals errors ds
    | .error e => refusals (errors.insert d.node e.nodeMessage) ds

def collect (raw : Bytes) (ds : List (Delivery Hash)) : BroadcastOutcome where
  hash := Hash.ofKeccak raw
  broadcasted := ds.any fun d => d.result.toBool
  errors := refusals .empty ds

/-- The outcome as a document. -/
def toJson (o : BroadcastOutcome) : Json :=
  .obj [("hash", .str o.hash.text), ("broadcasted", .bool o.broadcasted),
    ("errors", .obj (o.errors.entries.map fun (node, text) => (node, .str text)))]

end BroadcastOutcome

/-- A list of nodes that transactions are sent to. -/
structure Broadcaster where
  nodes : List Node
  /-- How long each node may take. -/
  callTimeout : Millis

namespace Broadcaster

def sendRaw (b : Broadcaster) (raw : Bytes) : StateM Session BroadcastOutcome := do
  let now := (← get).now
  let es := endings b.nodes b.callTimeout now (.sendRaw raw)
  modify (·.record (b.nodes.map fun n => .asked n.name (.sendRaw raw)))
  modify fun s => { s with now := Ending.lastTime now es }
  return .collect raw (Ending.deliveries es)

def send (b : Broadcaster) (tx : SignedTransaction) : StateM Session BroadcastOutcome :=
  b.sendRaw tx.encoded

/-- The bytes of a transaction written in hexadecimal, blanks around it allowed. -/
def readHex (text : String) : Except EncodeError Bytes :=
  match Hex.decode (Text.trim text) with
  | .error e => .error (.rawHex e)
  | .ok [] => .error .emptyRaw
  | .ok raw => .ok raw

def sendHex (b : Broadcaster) (text : String) : Run BroadcastOutcome := do
  let raw ← Run.ofResult ((readHex text).mapError .encode)
  b.sendRaw raw

end Broadcaster

end NodeFleet

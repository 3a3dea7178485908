/-
  Reading from a fleet of nodes.

  * `Client.ofNodes`: a client over nodes with distinct names, which stand in the order of the
    names.
  * `Client.ask`: asks every node at once and returns as soon as the answer is settled; nothing
    that a slower node says can change it.
  * `Client.balance`, `Client.transaction`, …: the reads, each under its own operation name.
  * `Client.txInfo`: the state of a hash, from two reads; it never fails.
  * `Client.readContract` and what is below it: reads of contracts by their interfaces.
-/
import NodeFleet.Explorer
import NodeFleet.GasOracle
import NodeFleet.Race
import NodeFleet.Token

namespace NodeFleet

/-- How long a node may take for an answer, if nothing else is said. -/
def defaultCallTimeout : Millis := 4000

/-- Access to a chain through a fleet of nodes. -/
structure Client where
  chain : ChainConfig
  nodes : NameMap Node
  /-- Every node stands under its own name. -/
  named : ∀ e ∈ nodes.entries, e.2.name = e.1
  /-- How long each node may take for an answer. -/
  callTimeout : Millis
  oracle : GasOracle
  interfaces : InterfaceSource

namespace Client

/-- Adds nodes to those there are; a name stands for one node. -/
def addNodes (nodes : NameMap Node) : List Node → Except ConfigError (NameMap Node)
  | [] => .ok nodes
  | n :: ns =>
    match nodes.get? n.name with
    | some _ => .error (.duplicateNode n.name)
    | none => addNodes (nodes.insert n.name n) ns

theorem addNodes_named {ns : List Node} {nodes nodes' : NameMap Node}
    (h : ∀ e ∈ nodes.entries, e.2.name = e.1) (hadd : addNodes nodes ns = .ok nodes') :
    ∀ e ∈ nodes'.entries, e.2.name = e.1 := by
  induction ns generalizing nodes with
  | nil =>
    cases hadd
    exact h
  | cons n ns ih =>
    rw [addNodes] at hadd
    split at hadd
    · cases hadd
    · refine ih (fun e he => ?_) hadd
      rcases NameMap.mem_insert he with rfl | he
      · rfl
      · exact h e he

def ofNodes (chain : ChainConfig) (nodes : List Node) (callTimeout : Millis)
    (oracle : GasOracle) (interfaces : InterfaceSource) : Except ConfigError Client :=
  match h : addNodes .empty nodes with
  | .error e => .error e
  | .ok nodes =>
    .ok ⟨chain, nodes, addNodes_named (by simp [NameMap.empty]) h, callTimeout, oracle, interfaces⟩

/-- The nodes in the order of their names. -/
def nodeList (c : Client) : List Node := c.nodes.entries.map (·.2)

/-! ## Asking all nodes -/

/-- Asks every node. The answer is settled once a part ends with an answer that wins, or all
    parts have ended. -/
def ask {α : Type} (c : Client) (r : Request) (wins : r.Answer → Bool)
    (settle : List (Delivery r.Answer) → Result α) : Run α := do
  let now ← Run.now
  let es := endings c.nodeList c.callTimeout now r
  modify (·.record (c.nodes.keys.map (.asked · r)))
  modify fun s => { s with now := Ending.overAt wins now es }
  Run.ofResult (settle (Ending.deliveries es))

/-- The first answer to a request. -/
def first (c : Client) (operation : String) (r : Request) : Run r.Answer :=
  c.ask r (fun _ => true) (Delivery.race operation)

/-! ## Reads -/

def balance (c : Client) (address : Address) : Run Word := c.first "get_balance" (.balance address)

def minedNonce (c : Client) (address : Address) : Run UInt64 :=
  c.first "get_mined_nonce" (.nonce address .mined)

def pendingNonce (c : Client) (address : Address) : Run UInt64 :=
  c.first "get_pending_nonce" (.nonce address .pending)

def code (c : Client) (address : Address) : Run Bytes := c.first "get_code" (.code address)

/-- Whether there is code at an address. -/
def isContract (c : Client) (address : Address) : Run Bool :=
  return !(← c.code address).isEmpty

/-- The transaction of a hash, if a node knows it. -/
def transaction (c : Client) (hash : Hash) : Run (Option ChainTransaction) :=
  c.ask (.transaction hash) Option.isSome (Delivery.raceOptional "transaction_by_hash")

def receipt (c : Client) (hash : Hash) : Run (Option Receipt) :=
  c.ask (.receipt hash) Option.isSome (Delivery.raceOptional "transaction_receipt")

/-- The gas that a call or a creation takes, at a price in Gwei. -/
def estimateGas (c : Client) (sender : Address) (to_ : Option Address) (gwei : Binary64)
    (value : Word) (data : Bytes) : Run UInt64 := do
  let gasPrice ← Run.ofResult ((Units.gweiToWeiPrice gwei).mapError .ofAmount)
  c.first "estimate_gas" (.estimateGas ⟨sender, to_, gasPrice, value, data⟩)

def logs (c : Client) (query : LogQuery) : Run (List LogEntry) := c.first "get_logs" (.logs query)

def header (c : Client) (number : Option UInt64) : Run BlockHeader :=
  c.first "header_by_number" (.header number)

def currentBlock (c : Client) : Run UInt64 := c.first "current_block" .blockNumber

def call (c : Client) (to_ : Address) (data : Bytes) (block : Option UInt64) : Run Bytes :=
  c.first "call_contract" (.call to_ data block)

def rawRequest (c : Client) (method : String) (params : Json) : Run Json :=
  c.first "raw_request" (.other method params)

/-- The gas price that nodes suggest, in wei. -/
def nodeGasPrice (c : Client) : Run (BitVec 128) := c.first "node_gas_price" .gasPrice

/-! ## What follows from reads -/

/-- The state of a hash. A mined transaction is pending until its receipt can be read. -/
def txInfo (c : Client) (hash : Hash) : StateM Session TxInfo := do
  match ← (c.transaction hash).attempt with
  | .error e => return .error e.message
  | .ok none => return .notFound
  | .ok (some tx) =>
    if tx.isPending then return .pending tx
    match ← (c.receipt hash).attempt with
    | .ok (some receipt) => return .mined tx receipt
    | _ => return .pending tx

/-- The published interface of a contract. -/
def interface (c : Client) (address : Address) : Run Abi.Interface := do
  Run.record (.interfaceFetched address)
  Run.ofResult ((c.interfaces address).mapError .explorer)

/-- A gas price in Gwei. -/
def recommendedGasPrice (c : Client) : Run Binary64 := do
  if c.oracle.usesNodes then
    let wei ← c.nodeGasPrice
    return Units.ofFixedPoint (wei.setWidth 256) Units.gweiDecimals
  c.oracle.recommended

/-! ## Contracts -/

/-- What a method of a contract returns. -/
def readContract (c : Client) (address : Address) (interface : Abi.Interface) (method : String)
    (args : List Abi.Value) (block : Option UInt64) : Run (List Abi.Value) := do
  let m ← Run.ofResult ((interface.method method args.length).mapError (.encode ∘ .call))
  let data ← Run.ofResult ((m.encodeInput args).mapError (.encode ∘ .call))
  let output ← c.call address data block
  Run.ofResult ((m.decodeOutput output).mapError (.decode ∘ .output m.signature))

/-- The same by the published interface. -/
def readPublished (c : Client) (address : Address) (method : String) (args : List Abi.Value)
    (block : Option UInt64) : Run (List Abi.Value) := do
  let interface ← c.interface address
  c.readContract address interface method args block

/-- What a method without arguments returns that gives an address. -/
def readAddress (c : Client) (contract : Address) (method : String) : Run Address := do
  match ← c.readPublished contract method [] none with
  | .address a :: _ => return a
  | values => Run.fail (.decode (.notAddress method contract values.head?))

def tokenBalance (c : Client) (token owner : Address) (block : Option UInt64) : Run Word := do
  let output ← c.call token (Token.balanceOf owner) block
  Run.ofResult ((Token.readAmount output).mapError .decode)

def tokenDecimals (c : Client) (token : Address) (block : Option UInt64) : Run UInt8 := do
  let output ← c.call token Token.decimals block
  Run.ofResult ((Token.readDecimals output).mapError .decode)

def tokenAllowance (c : Client) (token owner spender : Address) (block : Option UInt64) :
    Run Word := do
  let output ← c.call token (Token.allowance owner spender) block
  Run.ofResult ((Token.readAmount output).mapError .decode)

end Client

end NodeFleet

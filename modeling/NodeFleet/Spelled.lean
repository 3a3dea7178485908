/-
  The parts of a fleet spelt out, as logs show them.

  * `record`: a name with its fields; `spelled` of each part shows what tells it apart and
    nothing secret.
-/
import NodeFleet.Account
import NodeFleet.Config.NodeList
import NodeFleet.Text.Quoted

namespace NodeFleet.Spelled

/-- A name with fields in braces. -/
def record (name : String) (fields : List (String × String)) : String :=
  name ++ " \x7b "
    ++ String.intercalate ", " (fields.map fun (field, value) => field ++ ": " ++ value) ++ " \x7d"

def names (ns : List String) : String := "[" ++ String.intercalate ", " (ns.map Text.quoted) ++ "]"

def client (c : Client) : String :=
  record "EthereumClient" [("chain", c.chain.chain.label), ("nodes", names c.nodes.keys),
    ("call_timeout", Text.duration c.callTimeout)]

def broadcaster (b : Broadcaster) : String :=
  record "Broadcaster" [("nodes", names (b.nodes.map (·.name))),
    ("call_timeout", Text.duration b.callTimeout)]

/-- The address only; the key is not shown. -/
def localKey (k : LocalKey) : String :=
  record "LocalKeySigner" [("address", k.key.address.text),
    ("replay_protection", match k.replayProtection with
      | none => "None"
      | some id => "Some(" ++ toString id.toNat ++ ")")]

def account (a : Account) : String := record "Account" [("address", a.address.text)]

def priceSource : PriceSource → String
  | .fixed gwei => "fixed(" ++ gwei.text ++ ")"
  | .feed _ => "feed"
  | .nodes => "node"

def gasOracle (o : GasOracle) : String :=
  record "GasPriceOracle" [("source", Text.quoted (priceSource o.source)),
    ("ttl", Text.duration o.lifetime)]

/-- An analysis reads through a client. -/
def analyzer (c : Client) : String :=
  "TxAnalyzer \x7b client: " ++ client c ++ ", .. \x7d"

def node (e : NodeEntry) : String :=
  record "RpcNode" [("name", Text.quoted e.name), ("url", Text.quoted e.url)]

end NodeFleet.Spelled

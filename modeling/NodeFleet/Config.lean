/-
  The configuration of a fleet, read from variables.

  * `Config.ofEnvironment`: chain, nodes to read from, nodes to send to, and what overrides the
    chain's own settings. A variable that is unset, or no text, has its default.
  * `Config.load`: the same with a file of settings.
  * `Config.chainConfig`: the chain's settings with these overrides.
-/
import NodeFleet.Chain
import NodeFleet.Config.Dotenv
import NodeFleet.Config.NodeList

namespace NodeFleet

structure Config where
  chain : Chain
  /-- The nodes to read from. -/
  nodes : List NodeEntry
  /-- The nodes to send transactions to. -/
  broadcastNodes : List NodeEntry
  explorerKey : Option String
  /-- A source of gas prices in place of the chain's own. -/
  feedUrl : Option String
  logLevel : String

namespace Config

/-- The value of a variable that is set to a text of more than blanks. -/
def notBlank? (env : Environment) (name : String) : Option String :=
  (env.text? name).filter (!Text.isBlankText ·)

def ofEnvironment (env : Environment) : Except ConfigError Config := do
  let chain ← match env.text? "ETHEREUM_CHAIN" with
    | some name => Chain.parse name
    | none => .ok .ethereum
  let nodes ← match env.text? "ETHEREUM_RPC_NODES" with
    | some list => NodeEntry.parseList list
    | none => .error .nodesUnset
  let broadcastNodes ← match env.text? "ETHEREUM_BROADCAST_NODES" with
    | some list => NodeEntry.parseList list
    | none => .ok nodes
  return {
    chain, nodes, broadcastNodes
    explorerKey := notBlank? env "EXPLORER_API_KEY"
    feedUrl := notBlank? env "GAS_PRICE_FEED_URL"
    logLevel := (env.text? "LOG_LEVEL").getD "info" }

/-- The configuration of an environment and of a file of settings, if there is one. -/
def load (settings : Option String) (env : Environment) : Except ConfigError Config :=
  ofEnvironment (Dotenv.loadFrom settings env)

/-- The chain's settings with the configured overrides. -/
def chainConfig (c : Config) : ChainConfig :=
  (ChainConfig.of c.chain).override c.explorerKey (c.feedUrl.map .feed)

end Config

end NodeFleet

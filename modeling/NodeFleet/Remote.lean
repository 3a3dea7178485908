/-
  Remote services that cannot be reached.

  * `requestUrl`: the address that a request goes to; `requestFailure`: what is said of a
    request that cannot be sent.
  * `Node.remote?`, `PriceFeed.remote`, `InterfaceSource.remote`: nodes, feeds and explorers at
    web addresses, as they are where no connection can be made.
  * `Config.client?`, `Config.broadcaster?`: the fleet that a configuration describes.
-/
import NodeFleet.Broadcaster
import NodeFleet.Client
import NodeFleet.Config
import NodeFleet.Url

namespace NodeFleet

/-- The address that a request goes to, or what is said of a text that names no host. -/
def requestUrl (url : String) : Except String Url :=
  match Url.parse? url with
  | none => .error "builder error"
  | some u =>
    if u.hasHost then .ok u.withoutCredentials
    else .error ("builder error for url (" ++ u.text ++ ")")

/-- What is said of a request that cannot be sent. -/
def requestFailure (url : String) : String :=
  match requestUrl url with
  | .error text => text
  | .ok u =>
    if u.isWeb then "error sending request for url (" ++ u.text ++ ")"
    else "builder error for url (" ++ u.text ++ ")"

/-- A node at a web address. -/
def Node.remote (name url : String) : Node where
  name := name
  serve _ _ := ⟨0, some (.error (.provider name (requestFailure url)))⟩

/-- A node at a written address. -/
def Node.remote? (e : NodeEntry) : Except ConfigError Node :=
  match Url.parse? e.url with
  | none => .error (.badUrl e.name e.url)
  | some _ => .ok (.remote e.name e.url)

/-- A feed at a web address. -/
def PriceFeed.remote (url : String) : PriceFeed := fun _ =>
  ⟨0, .error (.gasOracle (.other (url ++ ": " ++ requestFailure url)))⟩

/-- An explorer on the web. -/
def InterfaceSource.remote (kind : ExplorerKind) (key : Option String) : InterfaceSource :=
  fun address => .error (.other (requestFailure (kind.url key address)))

/-- The source of prices that a strategy names. -/
def GasPriceStrategy.source : GasPriceStrategy → PriceSource
  | .fixed gwei => .fixed gwei
  | .feed url => .feed (.remote url)
  | .nodes => .nodes

/-- Reading by a configuration. -/
def Config.client? (c : Config) : Except ConfigError Client := do
  let chain := c.chainConfig
  let nodes ← c.nodes.mapM Node.remote?
  Client.ofNodes chain nodes defaultCallTimeout (.ofSource chain.gasPrice.source)
    (.remote chain.explorer chain.explorerKey)

/-- Sending by a configuration. -/
def Config.broadcaster? (c : Config) : Except ConfigError Broadcaster := do
  return ⟨← c.broadcastNodes.mapM Node.remote?, defaultCallTimeout⟩

end NodeFleet

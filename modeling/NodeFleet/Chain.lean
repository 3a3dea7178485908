/-
  The supported chains and what differs between them.

  * `Chain`: a chain, with its number and its name; `Chain.parse` reads a name.
  * `ChainConfig.of`: where a chain's contract interfaces and gas prices come from, and the
    number that signatures are bound to.
-/
import NodeFleet.Error
import NodeFleet.Text.Blank
import NodeFleet.Text.Case

namespace NodeFleet

/-- A supported chain. -/
inductive Chain where
  | ethereum
  | ropsten
  | kovan
  | rinkeby
  | bsc
  | bscTest
  | tomo
  deriving DecidableEq, Inhabited

namespace Chain

def id : Chain → UInt64
  | .ethereum => 1
  | .ropsten => 3
  | .kovan => 42
  | .rinkeby => 4
  | .bsc => 56
  | .bscTest => 97
  | .tomo => 88

def name : Chain → String
  | .ethereum => "ethereum"
  | .ropsten => "ropsten"
  | .kovan => "kovan"
  | .rinkeby => "rinkeby"
  | .bsc => "bsc"
  | .bscTest => "bsc-test"
  | .tomo => "tomo"

/-- The name of a chain's constructor, as the spelt-out form of a client shows it. -/
def label : Chain → String
  | .ethereum => "Ethereum"
  | .ropsten => "Ropsten"
  | .kovan => "Kovan"
  | .rinkeby => "Rinkeby"
  | .bsc => "Bsc"
  | .bscTest => "BscTest"
  | .tomo => "Tomo"

def all : List Chain := [.ethereum, .ropsten, .kovan, .rinkeby, .bsc, .bscTest, .tomo]

/-- The chain with exactly this name. -/
def ofName? (name : String) : Option Chain := all.find? (·.name == name)

/-- Reads a name in letters of any case, blanks around it allowed. -/
def parse (s : String) : Except ConfigError Chain :=
  let name := Text.lower (Text.trim s)
  if name = "mainnet" then .ok .ethereum
  else
    match ofName? name with
    | some c => .ok c
    | none => .error (.unsupportedChain name)

end Chain

/-- How a gas price is recommended. -/
inductive GasPriceStrategy where
  | fixed (gwei : Binary64)
  | feed (url : String)
  /-- As the nodes suggest. -/
  | nodes

/-- Where contract interfaces are published. -/
inductive ExplorerKind where
  | etherscan (domain : String)
  | tomoscan (url : String)

structure ChainConfig where
  chain : Chain
  chainId : UInt64
  explorer : ExplorerKind
  explorerKey : Option String
  gasPrice : GasPriceStrategy
  /-- The chain number bound into signatures, if they are bound to one. -/
  replayProtection : Option UInt64

namespace ChainConfig

private def explorerOf : Chain → ExplorerKind
  | .ethereum => .etherscan "api.etherscan.io"
  | .ropsten => .etherscan "api-ropsten.etherscan.io"
  | .kovan => .etherscan "api-kovan.etherscan.io"
  | .rinkeby => .etherscan "api-rinkeby.etherscan.io"
  | .bsc => .etherscan "api.bscscan.com"
  | .bscTest => .etherscan "api-testnet.bscscan.com"
  | .tomo => .tomoscan "https://scan.tomochain.com/api/accounts"

private def gasPriceOf : Chain → GasPriceStrategy
  | .ethereum => .feed "https://ethgasstation.info/json/ethgasAPI.json"
  | .ropsten => .fixed (Binary64.ofNat 5)
  | .tomo => .fixed (Binary64.ofNat 1)
  | .kovan | .rinkeby | .bsc | .bscTest => .nodes

/-- The configuration that a chain has by itself. -/
def of (c : Chain) : ChainConfig where
  chain := c
  chainId := c.id
  explorer := explorerOf c
  explorerKey := none
  gasPrice := gasPriceOf c
  replayProtection := some c.id

/-- The configuration with another key and another strategy, as far as they are given. -/
def override (c : ChainConfig) (explorerKey : Option String) (gasPrice : Option GasPriceStrategy) :
    ChainConfig :=
  { c with explorerKey := explorerKey.or c.explorerKey, gasPrice := gasPrice.getD c.gasPrice }

end ChainConfig

end NodeFleet

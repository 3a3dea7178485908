/-
  What can go wrong, and the messages about it.

  * `Error`: one constructor per kind; within a kind, the causes that are told apart.
  * `NodeErrors`: what each node of a redundant call said, by node name.
  * `Error.message`: the text of an error; `Error.nodeMessage`: the text kept for a node, where
    the node's own words need no introduction.
-/
import NodeFleet.Abi.Call
import NodeFleet.Abi.Spelled
import NodeFleet.Address
import NodeFleet.Curve.Ecdsa
import NodeFleet.NameMap
import NodeFleet.Units

namespace NodeFleet

/-- What each node said, by node name. -/
abbrev NodeErrors := NameMap String

def NodeErrors.message (errors : NodeErrors) : String :=
  if errors.isEmpty then "no nodes configured"
  else
    "all " ++ toString errors.size ++ " nodes failed: "
      ++ String.intercalate "; " (errors.entries.map fun (name, text) => "[" ++ name ++ "] " ++ text)

inductive ConfigError where
  | unsupportedChain (name : String)
  | malformedNode (item : String)
  | duplicateNode (name : String)
  | noNodes
  | nodesUnset
  | badUrl (node url : String)
  | other (text : String)

inductive EncodeError where
  | call (e : Abi.CallError)
  | rawHex (e : Hex.Error)
  | emptyRaw
  | other (text : String)

inductive DecodeError where
  | selector (e : Abi.SelectorError)
  | input (e : Abi.DecodeError)
  | output (signature : String) (e : Abi.DecodeError)
  /-- The return data of a token's `decimals`. -/
  | decimals (e : Abi.DecodeError)
  /-- The return data of a token's amounts. -/
  | amount (e : Abi.DecodeError)
  | notAddress (method : String) (contract : Address) (value : Option Abi.Value)
  | eventType (e : Abi.TypeError)
  | logData (e : Abi.DecodeError)
  | other (text : String)

inductive SignerError where
  | key (e : KeyError)
  | other (text : String)

inductive ValidationError where
  | amount (e : AmountError)
  | gasPrice (gwei : Binary64)
  | noDestination
  | lengthsDiffer (amounts addresses : Nat)
  | feeNotCovered (gwei : Binary64)
  | usage
  | other (text : String)

/-- Why a text is no integer of 32 bits. -/
inductive IntegerError where
  | empty
  | badDigit
  | tooLarge
  | tooSmall

inductive ParseError where
  | hex (e : Hex.Error)
  | integer (e : IntegerError)
  | addressBook
  | addressBookEntry (key : String) (e : Hex.Error)
  | transactionHash (e : Hex.Error)
  | other (text : String)

inductive ExplorerError where
  | unexpectedResponse
  | refused (address : Address) (text result : String)
  | unverified (address : Address)
  | unregistered (address : Address)
  | badInterface (address : Address)
  | other (text : String)

inductive GasOracleError where
  | readByNodes
  | badFeed (text : String)
  | other (text : String)

inductive OverflowError where
  | amount (e : AmountError)
  | other (text : String)

/-- What can go wrong. -/
inductive Error where
  | config (e : ConfigError)
  /-- One node failed a call. -/
  | provider (node text : String)
  /-- No node answered a redundant call. -/
  | aggregate (operation : String) (errors : NodeErrors)
  | encode (e : EncodeError)
  | decode (e : DecodeError)
  | signer (e : SignerError)
  | validation (e : ValidationError)
  | transport (text : String)
  | parse (e : ParseError)
  | explorer (e : ExplorerError)
  | gasOracle (e : GasOracleError)
  | overflow (e : OverflowError)

/-- An amount that is no number of money is invalid, one that is too large overflows. -/
def Error.ofAmount (e : AmountError) : Error :=
  match e with
  | .notFinite _ | .negative _ => .validation (.amount e)
  | .outOfRange _ | .tooLarge _ _ | .priceTooLarge _ => .overflow (.amount e)

/-! ## Messages -/

def AmountError.message : AmountError → String
  | .notFinite x => "amount " ++ x.text ++ " is not a finite number"
  | .negative x => "amount " ++ x.text ++ " must be non-negative"
  | .outOfRange x => "amount " ++ x.text ++ " exceeds range"
  | .tooLarge x n => "amount " ++ x.text ++ " with " ++ toString n ++ " decimals"
  | .priceTooLarge x => "gas price " ++ x.text ++ " gwei exceeds u128"

def Abi.CallError.message : Abi.CallError → String
  | .noMethod name => "method " ++ name ++ " not found in ABI"
  | .noOverload name arity =>
    "method " ++ name ++ " has no overload taking " ++ toString arity ++ " arguments"
  | .arguments signature e => signature ++ ": " ++ e.message

def Abi.SelectorError.message : Abi.SelectorError → String
  | .tooShort size => "calldata too short for a selector (" ++ toString size ++ " bytes)"
  | .unknown s => "Cannot get corresponding method from the ABI for selector " ++ s.text

def KeyError.message : KeyError → String
  | .text e => e.message
  | .outOfRange => "signature error"

def ConfigError.message : ConfigError → String
  | .unsupportedChain name => "'" ++ name ++ "' chain is not supported"
  | .malformedNode item => "expected name=url, got '" ++ item ++ "'"
  | .duplicateNode name => "duplicate node name '" ++ name ++ "'"
  | .noNodes => "no nodes configured"
  | .nodesUnset => "ETHEREUM_RPC_NODES environment variable not set"
  | .badUrl node url => "Invalid RPC URL for " ++ node ++ ": " ++ url
  | .other text => text

def EncodeError.message : EncodeError → String
  | .call e => e.message
  | .rawHex e => "invalid raw transaction hex: " ++ e.message
  | .emptyRaw => "empty raw transaction"
  | .other text => text

def DecodeError.message : DecodeError → String
  | .selector e => e.message
  | .input e => e.message
  | .output signature e => signature ++ " output: " ++ e.message
  | .decimals e => "decimals return: " ++ e.message
  | .amount e => "uint256 return: " ++ e.message
  | .notAddress method contract value =>
    method ++ " on " ++ contract.checksummed ++ " did not return an address: "
      ++ Abi.spelledOption value
  | .eventType e => "bad event parameter type: " ++ e.message
  | .logData e => "cannot unpack log data: " ++ e.message
  | .other text => text

def SignerError.message : SignerError → String
  | .key e => e.message
  | .other text => text

def ValidationError.message : ValidationError → String
  | .amount e => e.message
  | .gasPrice x => "gas price must be a non-negative number, got " ++ x.text
  | .noDestination => "a contract call needs a destination"
  | .lengthsDiffer m n =>
    "amounts and addresses must have the same length (" ++ toString m ++ " vs " ++ toString n ++ ")"
  | .feeNotCovered x => "not enough to do a tx with gas price: " ++ x.text ++ " gwei"
  | .usage => "usage: ethkit <tx-hash>"
  | .other text => text

def IntegerError.message : IntegerError → String
  | .empty => "cannot parse integer from empty string"
  | .badDigit => "invalid digit found in string"
  | .tooLarge => "number too large to fit in target type"
  | .tooSmall => "number too small to fit in target type"

/-- What is wrong with a document as such is not told. -/
def ParseError.message : ParseError → String
  | .hex e => e.message
  | .integer e => e.message
  | .addressBook => "address book: "
  | .addressBookEntry key e => "address book entry " ++ key ++ ": " ++ e.message
  | .transactionHash e => "transaction hash: " ++ e.message
  | .other text => text

def ExplorerError.message : ExplorerError → String
  | .unexpectedResponse => "unexpected explorer response: "
  | .refused address text result =>
    "no ABI for " ++ address.checksummed ++ ": " ++ text ++ " (" ++ result ++ ")"
  | .unverified address => "no verified ABI for " ++ address.checksummed
  | .unregistered address => "no ABI registered for " ++ address.checksummed
  | .badInterface address => "invalid ABI for " ++ address.checksummed ++ ": "
  | .other text => text

def GasOracleError.message : GasOracleError → String
  | .readByNodes => "node strategy is resolved through the node set"
  | .badFeed text => "invalid feed response: " ++ text
  | .other text => text

def OverflowError.message : OverflowError → String
  | .amount e => e.message
  | .other text => text

namespace Error

/-- The name of the kind of an error. -/
def kind : Error → String
  | .config _ => "Config"
  | .provider .. => "Provider"
  | .aggregate .. => "Aggregate"
  | .encode _ => "Encode"
  | .decode _ => "Decode"
  | .signer _ => "Signer"
  | .validation _ => "Validation"
  | .transport _ => "Transport"
  | .parse _ => "Parse"
  | .explorer _ => "Explorer"
  | .gasOracle _ => "GasOracle"
  | .overflow _ => "NumericOverflow"

/-- The text of an error. -/
def message : Error → String
  | .config e => "Configuration error: " ++ e.message
  | .provider node text => "Node " ++ node ++ " error: " ++ text
  | .aggregate operation errors => "Redundant call " ++ operation ++ " failed, " ++ errors.message
  | .encode e => "Encode error: " ++ e.message
  | .decode e => "Decode error: " ++ e.message
  | .signer e => "Signer error: " ++ e.message
  | .validation e => "Validation error: " ++ e.message
  | .transport text => "Transport error: " ++ text
  | .parse e => "Parse error: " ++ e.message
  | .explorer e => "Explorer error: " ++ e.message
  | .gasOracle e => "Gas price oracle error: " ++ e.message
  | .overflow e => "Numeric overflow: " ++ e.message

/-- What is kept of an error under the name of the node it comes from. -/
def nodeMessage : Error → String
  | .provider _ text => text
  | e => e.message

def aggregate? : Error → Option NodeErrors
  | .aggregate _ errors => some errors
  | _ => none

end Error

/-- Shorthand for what may go wrong. -/
abbrev Result (α : Type) := Except Error α

end NodeFleet

/-
  What is found out about one transaction, for people to read.

  * `Analysis`: the transaction's plain fields, the called method with its arguments, the
    events it emitted, and a call wrapped in it.
  * `Analysis.note`: adds a problem to the text of those met so far.
-/
import NodeFleet.Report

namespace NodeFleet

/-- What a transaction is sent to. -/
inductive TxKind where
  | normal
  | contractCall
  deriving DecidableEq

namespace TxKind

def name : TxKind → String
  | .normal => "normal"
  | .contractCall => "contract call"

def ofName? (name : String) : Option TxKind :=
  [TxKind.normal, TxKind.contractCall].find? (·.name == name)

end TxKind

/-- An address and what it is called. -/
structure NamedAddress where
  address : Address
  name : String
  deriving DecidableEq

/-- A value with the name and the type of its parameter. -/
structure DecodedParam where
  name : String
  type : String
  value : String
  deriving DecidableEq

/-- An indexed value of an event. -/
structure DecodedTopic where
  name : String
  value : String
  deriving DecidableEq

structure DecodedEvent where
  name : String
  topics : List DecodedTopic
  data : List DecodedParam
  deriving DecidableEq

/-- A call that a wallet of several owners was asked to make. -/
structure WrappedCall where
  contract : NamedAddress
  method : String
  params : List DecodedParam
  deriving DecidableEq

/-- What is found out about a transaction. -/
structure Analysis where
  hash : Hash
  status : TxStatus
  kind : Option TxKind
  sender : Option NamedAddress
  to_ : Option NamedAddress
  /-- In whole units of the native asset. -/
  value : Option String
  nonce : Option UInt64
  /-- In Gwei. -/
  gasPrice : Option String
  gasLimit : Option UInt64
  contract : Option NamedAddress
  method : Option String
  params : List DecodedParam
  events : List DecodedEvent
  wrapped : Option WrappedCall
  /-- The problems met, in the order in which they were met. -/
  problems : String
  deriving DecidableEq

namespace Analysis

/-- Nothing is known but the state of a hash. -/
def blank (hash : Hash) (status : TxStatus) : Analysis where
  hash := hash
  status := status
  kind := none
  sender := none
  to_ := none
  value := none
  nonce := none
  gasPrice := none
  gasLimit := none
  contract := none
  method := none
  params := []
  events := []
  wrapped := none
  problems := ""

/-- A problem behind those met before; a semicolon divides them. -/
def joinProblem (problems problem : String) : String :=
  if problems.isEmpty then problem else problems ++ "; " ++ problem

def note (a : Analysis) (problem : String) : Analysis :=
  { a with problems := joinProblem a.problems problem }

def noteAll (a : Analysis) (problems : List String) : Analysis := problems.foldl note a

end Analysis

end NodeFleet

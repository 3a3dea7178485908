/-
  Analysing transactions.

  * `Analysis.ofInfo`: what reports say by the interface of the called contract. Problems are
    noted in the order call, logs, wrapped call; none of them ends the analysis.
  * `Client.analyze`: reads a transaction from the fleet first.
-/
import NodeFleet.Analysis.Log
import NodeFleet.Client

namespace NodeFleet

def AddressBook.named (book : AddressBook) (a : Address) : NamedAddress := ⟨a, book.nameOf a⟩

namespace Analysis

/-- The plain fields of a transaction. -/
def ofTransaction (book : AddressBook) (status : TxStatus) (tx : ChainTransaction) : Analysis :=
  { blank tx.hash status with
    sender := some (book.named tx.sender)
    to_ := tx.to_.map book.named
    value := some (Units.format tx.value Units.nativeDecimals)
    nonce := some tx.nonce
    gasPrice := some (Units.format (tx.gasPrice.setWidth 256) Units.gweiDecimals)
    gasLimit := some tx.gasLimit }

def addCall (a : Analysis) (book : AddressBook) : Except CallProblem ReadCall → Analysis
  | .ok c => { a with method := some c.method.name, params := c.params book }
  | .error p => { a with method := p.methodName? }.note p.message

def addLog (a : Analysis) (r : LogReading) : Analysis :=
  { a.noteAll r.problems with events := a.events ++ r.event.toList }

/-- A wrapped call, by the interface of its destination. -/
def readWrapped (book : AddressBook) (interfaces : InterfaceSource) (destination : Address)
    (data : Bytes) : Except String WrappedCall :=
  match interfaces destination with
  | .error e =>
    .error ("cannot get ABI of wrapped contract " ++ destination.checksummed ++ ": "
      ++ (Error.explorer e).message)
  | .ok i =>
    match i.readCall data with
    | .error p => .error p.wrappedMessage
    | .ok c => .ok ⟨book.named destination, c.method.name, c.params book⟩

/-- Adds the call that is wrapped in a call, if there is one and it has calldata. -/
def addWrapped (a : Analysis) (book : AddressBook) (interfaces : InterfaceSource) :
    Option (Address × Bytes) → Analysis
  | none | some (_, []) => a
  | some (destination, data) =>
    match readWrapped book interfaces destination data with
    | .ok c => { a with wrapped := some c }
    | .error problem => a.note problem

/-- Adds what the interface of the called contract tells. -/
def addDetails (a : Analysis) (book : AddressBook) (interfaces : InterfaceSource)
    (i : Abi.Interface) (input : Bytes) (logs : List LogEntry) : Analysis :=
  let call := i.readCall input
  let a := a.addCall book call
  let a := (logs.map (readLog book i)).foldl addLog a
  a.addWrapped book interfaces (call.toOption.bind (·.wrapped?))

/-- What reports say about a transaction. Only a mined one is looked into. -/
def ofInfo (book : AddressBook) (interfaces : InterfaceSource) (info : TxInfo)
    (interface : Option Abi.Interface) (isContract : Bool) : Analysis :=
  match info with
  | .mined tx receipt =>
    let a := ofTransaction book info.status tx
    match tx.to_ with
    | none => { a with kind := some .normal }.note "contract creation, nothing to decode"
    | some to_ =>
      if isContract then
        let a := { a with kind := some .contractCall, contract := some (book.named to_) }
        match interface with
        | none => a
        | some i => a.addDetails book interfaces i tx.input receipt.logs
      else { a with kind := some .normal }
  | _ => blank ((info.transaction?.map (·.hash)).getD Hash.zero) info.status

end Analysis

namespace Client

/-- The analysis of a mined transaction with a destination. -/
def analyzeSentTo (c : Client) (book : AddressBook) (info : TxInfo) (to_ : Address) :
    StateM Session Analysis := do
  let offline := Analysis.ofInfo book c.interfaces info
  match ← (c.isContract to_).attempt with
  | .error e =>
    return { offline none false with kind := none }.note
      ("cannot check the type of " ++ to_.checksummed ++ ": " ++ e.message)
  | .ok false => return offline none false
  | .ok true =>
    match ← (c.interface to_).attempt with
    | .ok i => return offline (some i) true
    | .error e =>
      return (offline none true).note
        ("cannot get ABI of " ++ to_.checksummed ++ ": " ++ e.message)

/-- The analysis of a hash, read from the fleet. -/
def analyze (c : Client) (book : AddressBook) (hash : Hash) : StateM Session Analysis := do
  let info ← c.txInfo hash
  let a ← match info with
    | .mined tx _ =>
      match tx.to_ with
      | some to_ => c.analyzeSentTo book info to_
      | none => pure (Analysis.ofInfo book c.interfaces info none false)
    | _ => pure (Analysis.ofInfo book c.interfaces info none false)
  let a := { a with hash }
  match info.error? with
  | some text => return a.note ("cannot get transaction " ++ hash.text ++ ": " ++ text)
  | none => return a

end Client

end NodeFleet

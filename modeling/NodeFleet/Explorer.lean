/-
  Published contract interfaces.

  * `ExplorerKind.url`: where the interface of a contract is asked for.
  * `ExplorerKind.readBody`: the interface in an answer.
  * `InterfaceSource`: whatever gives the interface of a contract; `InterfaceSource.ofTable` is
    one that knows a fixed set of them.
-/
import NodeFleet.Abi.Interface.Reader
import NodeFleet.Chain

namespace NodeFleet

namespace ExplorerKind

private def dropEndSlashes (s : String) : String :=
  String.ofList (s.toList.reverse.dropWhile (· = '/')).reverse

def url (kind : ExplorerKind) (key : Option String) (address : Address) : String :=
  match kind with
  | .etherscan domain =>
    let base := "https://" ++ domain ++ "/api?module=contract&action=getabi&address="
      ++ address.checksummed
    match key with
    | some k => base ++ "&apikey=" ++ k
    | none => base
  | .tomoscan base => dropEndSlashes base ++ "/" ++ address.checksummed

private def readInterface (address : Address) (text : String) :
    Except ExplorerError Abi.Interface :=
  match Abi.Interface.parse? text with
  | some i => .ok i
  | none => .error (.badInterface address)

private structure Verdict where
  status : String
  message : String
  result : String

private def readVerdict? (body : String) : Option Verdict := do
  let r ← Json.Record.ofJson? ["status", "message", "result"] (← Json.parse? body)
  let status ← r.required? "status" Json.readString?
  let message ← r.defaulted? "message" "" Json.readString?
  let result ← r.defaulted? "result" "" Json.readString?
  return ⟨status, message, result⟩

private def readEtherscan (address : Address) (body : String) :
    Except ExplorerError Abi.Interface :=
  match readVerdict? body with
  | none => .error .unexpectedResponse
  | some v =>
    if v.status = "1" then readInterface address v.result
    else .error (.refused address v.message v.result)

private def readContract? (j : Json) : Option String := do
  let r ← Json.Record.ofJson? ["abiCode"] j
  r.defaulted? "abiCode" "" Json.readString?

private def readAccount? (body : String) : Option (Option String) := do
  let r ← Json.Record.ofJson? ["contract"] (← Json.parse? body)
  r.defaulted? "contract" none (Json.readNullable? readContract?)

private def readTomoscan (address : Address) (body : String) :
    Except ExplorerError Abi.Interface :=
  match readAccount? body with
  | none => .error .unexpectedResponse
  | some none => .error (.unverified address)
  | some (some code) =>
    if code = "" then .error (.unverified address) else readInterface address code

/-- The interface in an explorer's answer. -/
def readBody (kind : ExplorerKind) (address : Address) (body : String) :
    Except ExplorerError Abi.Interface :=
  match kind with
  | .etherscan _ => readEtherscan address body
  | .tomoscan _ => readTomoscan address body

end ExplorerKind

/-- What gives the interface of a contract. -/
abbrev InterfaceSource := Address → Except ExplorerError Abi.Interface

/-- A fixed set of interfaces; of two for one address the later counts. -/
def InterfaceSource.ofTable (table : List (Address × Abi.Interface)) : InterfaceSource :=
  fun address =>
    match table.reverse.lookup address with
    | some i => .ok i
    | none => .error (.unregistered address)

end NodeFleet

/-
  Analyses as documents.

  * `Analysis.toJson`: fields in the order of the type; what is empty or unknown is left out.
  * `Analysis.ofJson?`: reads them back, and likewise for the parts of an analysis.
-/
import NodeFleet.Analysis
import NodeFleet.Report.Document

namespace NodeFleet

def TxKind.toJson (k : TxKind) : Json := .str k.name

def TxKind.ofJson? (j : Json) : Option TxKind := (Json.readName? j).bind ofName?

namespace NamedAddress

def toJson (a : NamedAddress) : Json := .obj [("address", .ofAddress a.address), ("name", .str a.name)]

def ofJson? (j : Json) : Option NamedAddress := do
  let r ← Json.Record.ofJson? ["address", "name"] j
  return {
    address := ← r.required? "address" Json.readAddress?
    name := ← r.required? "name" Json.readString? }

end NamedAddress

namespace DecodedParam

def toJson (p : DecodedParam) : Json :=
  .obj [("name", .str p.name), ("type", .str p.type), ("value", .str p.value)]

def ofJson? (j : Json) : Option DecodedParam := do
  let r ← Json.Record.ofJson? ["name", "type", "value"] j
  return {
    name := ← r.required? "name" Json.readString?
    type := ← r.required? "type" Json.readString?
    value := ← r.required? "value" Json.readString? }

end DecodedParam

namespace DecodedTopic

def toJson (t : DecodedTopic) : Json := .obj [("name", .str t.name), ("value", .str t.value)]

def ofJson? (j : Json) : Option DecodedTopic := do
  let r ← Json.Record.ofJson? ["name", "value"] j
  return {
    name := ← r.required? "name" Json.readString?
    value := ← r.required? "value" Json.readString? }

end DecodedTopic

namespace DecodedEvent

def toJson (e : DecodedEvent) : Json :=
  .obj [("name", .str e.name), ("topics", .ofList DecodedTopic.toJson e.topics),
    ("data", .ofList DecodedParam.toJson e.data)]

def ofJson? (j : Json) : Option DecodedEvent := do
  let r ← Json.Record.ofJson? ["name", "topics", "data"] j
  return {
    name := ← r.required? "name" Json.readString?
    topics := ← r.required? "topics" (Json.readList? DecodedTopic.ofJson?)
    data := ← r.required? "data" (Json.readList? DecodedParam.ofJson?) }

end DecodedEvent

namespace WrappedCall

def toJson (c : WrappedCall) : Json :=
  .obj [("contract", c.contract.toJson), ("method", .str c.method),
    ("params", .ofList DecodedParam.toJson c.params)]

def ofJson? (j : Json) : Option WrappedCall := do
  let r ← Json.Record.ofJson? ["contract", "method", "params"] j
  return {
    contract := ← r.required? "contract" NamedAddress.ofJson?
    method := ← r.required? "method" Json.readString?
    params := ← r.required? "params" (Json.readList? DecodedParam.ofJson?) }

end WrappedCall

namespace Analysis

def fields : List String :=
  ["hash", "status", "type", "from", "to", "value", "nonce", "gas_price", "gas_limit", "contract",
   "method", "params", "logs", "wrapped_call", "error"]

/-- A field that is left out when it is unknown. -/
def known {α : Type} (name : String) (write : α → Json) (o : Option α) : List (String × Json) :=
  (o.map fun a => (name, write a)).toList

/-- A list that is left out when it is empty. -/
def filled {α : Type} (name : String) (write : α → Json) (items : List α) :
    List (String × Json) :=
  if items.isEmpty then [] else [(name, .ofList write items)]

def toJson (a : Analysis) : Json :=
  .obj <| [("hash", .ofHash a.hash), ("status", a.status.toJson)]
    ++ known "type" TxKind.toJson a.kind
    ++ known "from" NamedAddress.toJson a.sender
    ++ known "to" NamedAddress.toJson a.to_
    ++ known "value" .str a.value
    ++ known "nonce" .ofU64 a.nonce
    ++ known "gas_price" .str a.gasPrice
    ++ known "gas_limit" .ofU64 a.gasLimit
    ++ known "contract" NamedAddress.toJson a.contract
    ++ known "method" .str a.method
    ++ filled "params" DecodedParam.toJson a.params
    ++ filled "logs" DecodedEvent.toJson a.events
    ++ known "wrapped_call" WrappedCall.toJson a.wrapped
    ++ (if a.problems.isEmpty then [] else [("error", .str a.problems)])

def ofJson? (j : Json) : Option Analysis := do
  let r ← Json.Record.ofJson? fields j
  return {
    hash := ← r.required? "hash" Json.readHash?
    status := ← r.required? "status" TxStatus.ofJson?
    kind := ← r.optional? "type" TxKind.ofJson?
    sender := ← r.optional? "from" NamedAddress.ofJson?
    to_ := ← r.optional? "to" NamedAddress.ofJson?
    value := ← r.optional? "value" Json.readString?
    nonce := ← r.optional? "nonce" Json.readU64?
    gasPrice := ← r.optional? "gas_price" Json.readString?
    gasLimit := ← r.optional? "gas_limit" Json.readU64?
    contract := ← r.optional? "contract" NamedAddress.ofJson?
    method := ← r.optional? "method" Json.readString?
    params := ← r.defaulted? "params" [] (Json.readList? DecodedParam.ofJson?)
    events := ← r.defaulted? "logs" [] (Json.readList? DecodedEvent.ofJson?)
    wrapped := ← r.optional? "wrapped_call" WrappedCall.ofJson?
    problems := ← r.defaulted? "error" "" Json.readString? }

end Analysis

end NodeFleet

/-
  Reports as documents.

  * `ChainTransaction.toJson`, `ChainTransaction.ofJson?` and likewise for logs, receipts and
    headers: one field each, in the order of the type. Amounts are hexadecimal texts, numbers
    that fit a machine word are plain, byte strings, addresses and hashes are lower case.
  * Readers take more than writers give: amounts in any base, byte strings as lists of numbers,
    records as lists of values.
  * `TxInfo.toJson`: what is known of a hash; nothing reads it back.
-/
import NodeFleet.Address
import NodeFleet.Chain
import NodeFleet.Json.Reader
import NodeFleet.Json.Record
import NodeFleet.Report

namespace NodeFleet

namespace Json

/-! ## Single values -/

def ofU64 (n : UInt64) : Json := ofNat n.toNat

def ofBytes (bs : Bytes) : Json := .str (Hex.prefixed bs)

def ofAddress (a : Address) : Json := .str a.text

def ofHash (h : Hash) : Json := .str h.text

/-- An amount. -/
def ofWord (w : Word) : Json := .str (Hex.number w.toNat)

/-- A value or null. -/
def ofOption {α : Type} (write : α → Json) : Option α → Json
  | none => .null
  | some a => write a

def ofList {α : Type} (write : α → Json) (items : List α) : Json := .arr (items.map write)

def readU64? (j : Json) : Option UInt64 := (readNat? (twoTo 64) j).map UInt64.ofNat

/-- The value of a letter or digit, in bases up to 36. -/
def letterValue? (c : Char) : Option Nat :=
  if '0' ≤ c ∧ c ≤ '9' then some (c.toNat - 48)
  else if 'a' ≤ c ∧ c ≤ 'z' then some (c.toNat - 87)
  else if 'A' ≤ c ∧ c ≤ 'Z' then some (c.toNat - 55)
  else none

/-- The number that digits spell in a base; underscores between them do not count. -/
def digitsIn? (base : Nat) : List Char → Nat → Option Nat
  | [], v => some v
  | c :: cs, v =>
    if c = '_' then digitsIn? base cs v
    else
      match letterValue? c with
      | none => none
      | some d => if d < base then digitsIn? base cs (base * v + d) else none

/-- The number that a text spells: decimal, or in the base that its mark names. -/
def amountOfText? (s : String) : Option Nat :=
  match s.toList with
  | '0' :: 'x' :: ds | '0' :: 'X' :: ds => digitsIn? 16 ds 0
  | '0' :: 'o' :: ds | '0' :: 'O' :: ds => digitsIn? 8 ds 0
  | '0' :: 'b' :: ds | '0' :: 'B' :: ds => digitsIn? 2 ds 0
  | ds => digitsIn? 10 ds 0

/-- An amount: a text, or a plain number of at most 64 bits. -/
def readWord? (j : Json) : Option Word :=
  match j with
  | .str s =>
    (amountOfText? s).bind fun n => if n < twoTo 256 then some (BitVec.ofNat 256 n) else none
  | j => (readNat? (twoTo 64) j).map (BitVec.ofNat 256)

private def readByte? (j : Json) : Option UInt8 := (readNat? 256 j).map UInt8.ofNat

def readBytes? (j : Json) : Option Bytes :=
  match j with
  | .str s => (Hex.decode s).toOption
  | j => readList? readByte? j

/-- Exactly `n` bytes. -/
def readFixed? (n : Nat) (j : Json) : Option Bytes :=
  match j with
  | .str s => (Hex.decodeFixed n s).toOption
  | j => (readList? readByte? j).filter (·.length = n)

def readAddress? (j : Json) : Option Address := (readFixed? 20 j).map Address.ofBytes

def readHash? (j : Json) : Option Hash := (readFixed? 32 j).map Hash.ofBytes

/-- One of some names, alone or as the only key of an object that gives it null. -/
def readName? (j : Json) : Option String :=
  match j with
  | .str s => some s
  | .obj [(s, .null)] => some s
  | _ => none

end Json

/-! ## Records -/

namespace ChainTransaction

def fields : List String :=
  ["hash", "from", "to", "nonce", "value", "gas_limit", "gas_price", "input", "block_number"]

def toJson (tx : ChainTransaction) : Json :=
  .obj [("hash", .ofHash tx.hash), ("from", .ofAddress tx.sender),
    ("to", .ofOption .ofAddress tx.to_), ("nonce", .ofU64 tx.nonce), ("value", .ofWord tx.value),
    ("gas_limit", .ofU64 tx.gasLimit), ("gas_price", .ofNat tx.gasPrice.toNat),
    ("input", .ofBytes tx.input), ("block_number", .ofOption .ofU64 tx.blockNumber)]

def ofJson? (j : Json) : Option ChainTransaction := do
  let r ← Json.Record.ofJson? fields j
  return {
    hash := ← r.required? "hash" Json.readHash?
    sender := ← r.required? "from" Json.readAddress?
    to_ := ← r.optional? "to" Json.readAddress?
    nonce := ← r.required? "nonce" Json.readU64?
    value := ← r.required? "value" Json.readWord?
    gasLimit := ← r.required? "gas_limit" Json.readU64?
    gasPrice := ← r.required? "gas_price" fun j => (Json.readNat? (twoTo 128) j).map (BitVec.ofNat 128)
    input := ← r.required? "input" Json.readBytes?
    blockNumber := ← r.optional? "block_number" Json.readU64? }

end ChainTransaction

namespace LogEntry

def fields : List String := ["address", "topics", "data"]

def toJson (e : LogEntry) : Json :=
  .obj [("address", .ofAddress e.address), ("topics", .ofList .ofHash e.topics),
    ("data", .ofBytes e.data)]

def ofJson? (j : Json) : Option LogEntry := do
  let r ← Json.Record.ofJson? fields j
  return {
    address := ← r.required? "address" Json.readAddress?
    topics := ← r.required? "topics" (Json.readList? Json.readHash?)
    data := ← r.required? "data" Json.readBytes? }

end LogEntry

namespace ReceiptStatus

def toJson : ReceiptStatus → Json
  | .success => .str "success"
  | .failure => .str "failure"
  | .postState root => .obj [("post_state", .ofHash root)]

def ofJson? (j : Json) : Option ReceiptStatus :=
  match j with
  | .obj [("post_state", root)] => (Json.readHash? root).map .postState
  | j =>
    match Json.readName? j with
    | some "success" => some .success
    | some "failure" => some .failure
    | _ => none

end ReceiptStatus

namespace Receipt

def fields : List String := ["status", "gas_used", "logs", "block_number"]

def toJson (r : Receipt) : Json :=
  .obj [("status", r.status.toJson), ("gas_used", .ofU64 r.gasUsed),
    ("logs", .ofList LogEntry.toJson r.logs), ("block_number", .ofOption .ofU64 r.blockNumber)]

def ofJson? (j : Json) : Option Receipt := do
  let r ← Json.Record.ofJson? fields j
  return {
    status := ← r.required? "status" ReceiptStatus.ofJson?
    gasUsed := ← r.required? "gas_used" Json.readU64?
    logs := ← r.required? "logs" (Json.readList? LogEntry.ofJson?)
    blockNumber := ← r.optional? "block_number" Json.readU64? }

end Receipt

namespace BlockHeader

def fields : List String :=
  ["number", "hash", "parent_hash", "timestamp", "gas_limit", "gas_used", "base_fee_per_gas"]

def toJson (h : BlockHeader) : Json :=
  .obj [("number", .ofU64 h.number), ("hash", .ofHash h.hash),
    ("parent_hash", .ofHash h.parentHash), ("timestamp", .ofU64 h.timestamp),
    ("gas_limit", .ofU64 h.gasLimit), ("gas_used", .ofU64 h.gasUsed),
    ("base_fee_per_gas", .ofOption .ofU64 h.baseFee)]

def ofJson? (j : Json) : Option BlockHeader := do
  let r ← Json.Record.ofJson? fields j
  return {
    number := ← r.required? "number" Json.readU64?
    hash := ← r.required? "hash" Json.readHash?
    parentHash := ← r.required? "parent_hash" Json.readHash?
    timestamp := ← r.required? "timestamp" Json.readU64?
    gasLimit := ← r.required? "gas_limit" Json.readU64?
    gasUsed := ← r.required? "gas_used" Json.readU64?
    baseFee := ← r.optional? "base_fee_per_gas" Json.readU64? }

end BlockHeader

/-! ## Names -/

def TxStatus.toJson (s : TxStatus) : Json := .str s.name

def TxStatus.ofJson? (j : Json) : Option TxStatus := (Json.readName? j).bind ofName?

def Chain.toJson (c : Chain) : Json := .str c.name

def Chain.ofJson? (j : Json) : Option Chain := (Json.readName? j).bind ofName?

/-- A hash, with the reports that its state was derived from. -/
def TxInfo.toJson (info : TxInfo) : Json :=
  .obj <| [("status", info.status.toJson),
    ("transaction", .ofOption ChainTransaction.toJson info.transaction?),
    ("receipt", .ofOption Receipt.toJson info.receipt?)]
    ++ (info.error?.map fun text => ("error", .str text)).toList

end NodeFleet

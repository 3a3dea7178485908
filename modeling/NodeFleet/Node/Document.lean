/-
  Requests as documents, the way a record of calls shows them.

  * `Request.toJson`: the name of the method and the arguments. Amounts and prices are decimal
    texts, and a part that is left out is null.
-/
import NodeFleet.Node
import NodeFleet.Report.Document

namespace NodeFleet

private def ofAmount {n : Nat} (w : BitVec n) : Json := .str (toString w.toNat)

private def ofAccount (a : Address) : Json := .str a.checksummed

private def ofRaw (bs : Bytes) : Json := .str (Hex.prefixed bs)

private def ofBlock (n : Option UInt64) : Json := .ofOption .ofU64 n

namespace Request

def arguments : Request → List Json
  | .balance a | .code a => [ofAccount a]
  | .nonce a .mined => [ofAccount a, .str "mined"]
  | .nonce a .pending => [ofAccount a, .str "pending"]
  | .transaction h | .receipt h => [.str h.text]
  | .estimateGas q =>
    [.obj [("from", ofAccount q.sender), ("to", .ofOption ofAccount q.to_),
      ("gas_price", ofAmount q.gasPrice), ("value", ofAmount q.value), ("data", ofRaw q.data)]]
  | .gasPrice | .blockNumber => []
  | .logs q =>
    [.arr (q.addresses.map ofAccount), .ofOption (fun t => .str t.text) q.topic,
      .ofU64 q.fromBlock, ofBlock q.toBlock]
  | .header n => [ofBlock n]
  | .call a data n => [ofAccount a, ofRaw data, ofBlock n]
  | .sendRaw bs => [ofRaw bs]
  | .other method params => [.str method, params]

def toJson (r : Request) : Json := .arr (.str r.method :: r.arguments)

end Request

end NodeFleet

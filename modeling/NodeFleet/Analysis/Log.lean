/-
  Emitted events by the interface of the called contract.

  * `Interface.eventOf?`: the event that a first topic names.
  * `readTopics`: the indexed values of an event, one topic each. A value of one word is the
    topic itself, any other is known by its digest only.
  * `readData`: the other values, which stand in the data one after another.
  * `readLog`: an event for each log whose first topic is known, and what could not be read.
-/
import NodeFleet.Analysis.Call

namespace NodeFleet

/-- Whether a value takes exactly one word. -/
def Abi.Ty.isWord : Abi.Ty → Bool
  | .address | .bool | .int _ | .uint _ | .fixedBytes _ | .function => true
  | _ => false

/-- The first event that announces itself with a topic. -/
def Abi.Interface.eventOf? (i : Abi.Interface) (topic : Hash) : Option Abi.Event :=
  i.events.find? fun e => !e.anonymous && e.topic == topic

/-! ## Indexed values -/

/-- A topic for people to read: the value, if it is one word, or the digest. -/
def renderTopic (book : AddressBook) (p : Abi.Param) (topic : Hash) : String :=
  match p.resolve with
  | .error _ => topic.text
  | .ok t =>
    if t.isWord then
      match t.decode ⟨topic.toBytes, 0⟩ 0 with
      | .ok (v, _) => v.render book
      | .error _ => topic.text
    else topic.text

/-- The indexed values among parameters, the first of which stands at a place, and the
    parameters for which there is no topic. -/
def readTopics (book : AddressBook) :
    Nat → List Abi.EventParam → List Hash → List DecodedTopic × List String
  | _, [], _ => ([], [])
  | place, p :: ps, topics =>
    if p.indexed then
      match topics with
      | topic :: topics =>
        let (read, missing) := readTopics book (place + 1) ps topics
        (⟨paramName p.param.name place, renderTopic book p.param topic⟩ :: read, missing)
      | [] =>
        let (read, missing) := readTopics book (place + 1) ps []
        (read, paramName p.param.name place :: missing)
    else readTopics book (place + 1) ps topics

/-! ## Other values -/

/-- The parameters whose values stand in the data, with their places. -/
def dataParams (ps : List Abi.EventParam) : List (Abi.Param × Nat) :=
  (ps.zipIdx.filter (!·.1.indexed)).map fun (p, place) => (p.param, place)

/-- Values under parameters that know their places. -/
def placedValues (book : AddressBook) (ps : List (Abi.Param × Nat)) (vs : List Abi.Value) :
    List DecodedParam :=
  ps.zipWith (fun (p, place) v => ⟨paramName p.name place, p.typeText, v.render book⟩) vs

def readData (book : AddressBook) (ps : List (Abi.Param × Nat)) (data : Bytes) :
    Except DecodeError (List DecodedParam) :=
  if ps.isEmpty then .ok []
  else
    match Abi.resolveParams (ps.map (·.1)) with
    | .error e => .error (.eventType e)
    | .ok ts =>
      match Abi.decode (ts.map .ok) data with
      | .error e => .error (.logData e)
      | .ok vs => .ok (placedValues book ps vs)

/-! ## Logs -/

/-- What a log says, and what could not be read of it. -/
structure LogReading where
  event : Option DecodedEvent
  problems : List String

def readEvent (book : AddressBook) (e : Abi.Event) (topics : List Hash) (data : Bytes) :
    LogReading :=
  let (topics, missing) := readTopics book 0 e.inputs topics
  let missing := missing.map fun name => e.name ++ ": missing topic for " ++ name
  match readData book (dataParams e.inputs) data with
  | .ok values => ⟨some ⟨e.name, topics, values⟩, missing⟩
  | .error err =>
    ⟨some ⟨e.name, topics, []⟩, missing ++ [e.name ++ ": " ++ (Error.decode err).message]⟩

def readLog (book : AddressBook) (i : Abi.Interface) (log : LogEntry) : LogReading :=
  match log.topics with
  | [] => ⟨none, ["log of " ++ log.address.checksummed ++ " has no topics"]⟩
  | topic :: topics =>
    match i.eventOf? topic with
    | none => ⟨none, ["Cannot find event of topic " ++ topic.text]⟩
    | some e => readEvent book e topics log.data

end NodeFleet

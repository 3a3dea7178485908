/-
  Recommended gas prices, in Gwei.

  * `GasOracle`: a fixed price, a feed that is read, or a price that the nodes are asked for.
  * `GasOracle.recommended`: a price; that of a feed is kept and used again until it is older
    than the oracle's lifetime of prices. A failed reading is not kept.
  * `GasOracle.together`: several prices asked for at one moment. Each may read the feed, as
    none waits for the others.
-/
import NodeFleet.Session

namespace NodeFleet

/-- What each reading of a feed gives, the first being number zero. -/
abbrev PriceFeed := Nat → Delayed (Result Binary64)

/-- A feed that gives these readings and repeats the last. -/
def PriceFeed.ofList (readings : List (Delayed (Result Binary64))) : PriceFeed := fun n =>
  (readings[n]?.or readings.getLast?).getD ⟨0, .error (.gasOracle (.badFeed "empty"))⟩

inductive PriceSource where
  | fixed (gwei : Binary64)
  | feed (feed : PriceFeed)
  /-- Read from the nodes by whoever has them. -/
  | nodes

structure GasOracle where
  source : PriceSource
  /-- How old a price may be that is used again. -/
  lifetime : Millis

/-- A kept price that is not too old. -/
def CachedPrice.usable? (price : Option CachedPrice) (lifetime now : Millis) : Option Binary64 :=
  match price with
  | some p => if now - p.readAt ≤ lifetime then some p.gwei else none
  | none => none

/-- Keeps a price that has just been read. -/
def Session.keepPrice (s : Session) (gwei : Binary64) : Session :=
  { s with price := some ⟨gwei, s.now⟩ }

namespace GasOracle

def defaultLifetime : Millis := 30000

def ofSource (source : PriceSource) : GasOracle := ⟨source, defaultLifetime⟩

def usesNodes (o : GasOracle) : Bool :=
  match o.source with
  | .nodes => true
  | _ => false

/-- Reads a feed and keeps the price. -/
def readFeed (feed : PriceFeed) : Run Binary64 := do
  let reading := feed (← get).feedReads
  modify fun s => (s.record [.feedRead]).advance reading.delay
  let gwei ← Run.ofResult reading.value
  modify (·.keepPrice gwei)
  return gwei

def recommended (o : GasOracle) : Run Binary64 := do
  match o.source with
  | .fixed gwei => return gwei
  | .nodes => Run.fail (.gasOracle .readByNodes)
  | .feed feed =>
    let s ← get
    match CachedPrice.usable? s.price o.lifetime s.now with
    | some gwei => return gwei
    | none => readFeed feed

/-! ## Asking together -/

/-- A reading of a feed that takes time. -/
structure Reading where
  endsAt : Millis
  result : Result Binary64

/-- Begins one of several readings. A price that is there at once is kept at once, so that the
    readings after it find it. -/
def startReading (lifetime : Millis) (feed : PriceFeed) (s : Session) : Reading × Session :=
  match CachedPrice.usable? s.price lifetime s.now with
  | some gwei => (⟨s.now, .ok gwei⟩, s)
  | none =>
    let reading := feed s.feedReads
    let s := s.record [.feedRead]
    let s := match reading with
      | ⟨0, .ok gwei⟩ => s.keepPrice gwei
      | _ => s
    (⟨s.now + reading.delay, reading.value⟩, s)

def startAll (lifetime : Millis) (feed : PriceFeed) : Nat → Session → List Reading × Session
  | 0, s => ([], s)
  | n + 1, s =>
    let (r, s) := startReading lifetime feed s
    let (rs, s) := startAll lifetime feed n s
    (r :: rs, s)

/-- Ends a reading; its price is kept. -/
def finish (s : Session) (r : Reading) : Session :=
  let s := { s with now := r.endsAt }
  match r.result with
  | .ok gwei => s.keepPrice gwei
  | .error _ => s

/-- Ends the readings that are not over yet, in the order of time. -/
def finishAll (s : Session) (readings : List Reading) : Session :=
  ((readings.filter (s.now < ·.endsAt)).mergeSort fun a b => a.endsAt ≤ b.endsAt).foldl finish s

/-- As many prices, asked for at the same moment. -/
def together (o : GasOracle) (n : Nat) : StateM Session (List (Result Binary64)) := do
  match o.source with
  | .fixed gwei => return List.replicate n (.ok gwei)
  | .nodes => return List.replicate n (.error (.gasOracle .readByNodes))
  | .feed feed =>
    let (readings, s) := startAll o.lifetime feed n (← get)
    set (finishAll s readings)
    return readings.map (·.result)

end GasOracle

end NodeFleet

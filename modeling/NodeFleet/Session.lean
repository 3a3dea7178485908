/-
  What happens while a fleet is worked with.

  * `Event`: a node is asked, a price feed is read, a contract's interface is fetched, a
    transaction is handed to a signer.
  * `Session`: the time, the events so far and the price last read.
  * `Run`: a computation that lets time pass and events happen, and may fail.
-/
import NodeFleet.Node
import NodeFleet.Transaction

namespace NodeFleet

/-- Something that is seen from outside. -/
inductive Event where
  | asked (node : String) (request : Request)
  | feedRead
  | interfaceFetched (address : Address)
  | signatureAsked (tx : UnsignedTransaction)

/-- An event and when it happened. -/
structure Stamped where
  time : Millis
  event : Event

/-- The requests among events, with the nodes they were made to. -/
def Stamped.requests (events : List Stamped) : List (String × Request) :=
  events.filterMap fun e =>
    match e.event with
    | .asked node request => some (node, request)
    | _ => none

/-- A gas price and when it was read. -/
structure CachedPrice where
  gwei : Binary64
  readAt : Millis

structure Session where
  now : Millis
  /-- What happened so far, in order. -/
  events : List Stamped
  price : Option CachedPrice

namespace Session

/-- A session that begins at a moment. -/
def startingAt (now : Millis) : Session := ⟨now, [], none⟩

def start : Session := startingAt 0

def record (s : Session) (events : List Event) : Session :=
  { s with events := s.events ++ events.map (⟨s.now, ·⟩) }

def advance (s : Session) (d : Millis) : Session := { s with now := s.now + d }

/-- How often a price feed was read. -/
def feedReads (s : Session) : Nat :=
  s.events.countP fun e =>
    match e.event with
    | .feedRead => true
    | _ => false

/-- The requests made so far, with the nodes they were made to. -/
def asked (s : Session) : List (String × Request) := Stamped.requests s.events

theorem run_bind {α β : Type} (m : StateM Session α) (f : α → StateM Session β) (s : Session) :
    (m >>= f).run s = (f (m.run s).1).run (m.run s).2 :=
  rfl

end Session

/-- A computation in a session. What happened before a failure has happened. -/
abbrev Run (α : Type) : Type := ExceptT Error (StateM Session) α

namespace Run

def fail {α : Type} (e : Error) : Run α := throw e

def ofResult {α : Type} (r : Result α) : Run α := ExceptT.mk (pure r)

def now : Run Millis := return (← get).now

def record (event : Event) : Run Unit := modify (·.record [event])

/-- The outcome of a computation, and the session after it. -/
def outcome {α : Type} (run : Run α) (s : Session) : Result α × Session := run.run.run s

/-- The outcome as a value: a failure is no failure of what is around it. -/
def attempt {α : Type} (run : Run α) : StateM Session (Result α) := run.run

theorem run_attempt {α : Type} (run : Run α) (s : Session) : run.attempt.run s = run.outcome s :=
  rfl

end Run

end NodeFleet

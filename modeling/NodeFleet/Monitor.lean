/-
  Watching many transactions at once.

  * `Vigil`: the time, the watches under way, the watches that ended and the polls so far.
  * `Monitor.step`: lets one watch go on; `Monitor.drive` lets all of them go on in the order of
    time until a moment, or until nothing more is waited for.
  * `Monitor.watch`: begins a watch and gives a ticket for its result; `Vigil.collect` asks for
    the result, which is given once.
  * `Monitor.wait`, `Monitor.waitMany`: watch and wait for the end, no longer than a limit.
-/
import NodeFleet.Watch

namespace NodeFleet

/-- Watches transactions under a policy. -/
structure Monitor where
  reader : StatusReader
  policy : WatchPolicy

/-- A poll that was made. -/
structure Poll where
  ticket : Nat
  hash : Hash
  time : Millis
  /-- Which poll of its hash it is, from one on. -/
  number : Nat
  events : List Stamped

/-- A watch that ended. A watch whose reader died has no fate to tell. -/
structure WatchEnd where
  ticket : Nat
  hash : Hash
  fate : Option TxInfo

structure Vigil where
  now : Millis
  /-- All that was due before this moment has happened. -/
  settled : Millis
  /-- How many watches were begun. -/
  started : Nat
  /-- The watches under way. Those that wait for the same moment go on in this order. -/
  watches : List Watch
  /-- The watches that ended, in order. -/
  ends : List WatchEnd
  /-- The polls made, the last one first. -/
  polls : List Poll

/-- What asking for the result of a watch gives. -/
inductive Collected where
  | fate (info : TxInfo)
  | notYet
  /-- There will be no result: it was given before, or the watch died. -/
  | closed

namespace Vigil

def start : Vigil := ⟨0, 0, 0, [], [], []⟩

/-- How often a hash was polled. -/
def pollCount (v : Vigil) (hash : Hash) : Nat :=
  match v.polls.find? (·.hash == hash) with
  | some p => p.number
  | none => 0

def hasEnded (v : Vigil) (ticket : Nat) : Bool := v.ends.any (·.ticket == ticket)

/-- The fate that a watch ended with. -/
def fate? (v : Vigil) (ticket : Nat) : Option TxInfo :=
  (v.ends.find? (·.ticket == ticket)).bind (·.fate)

/-- Takes the result of a watch, if there is one. -/
def collect (v : Vigil) (ticket : Nat) : Collected × Vigil :=
  match v.fate? ticket with
  | some info =>
    (.fate info,
      { v with ends := v.ends.map fun e => if e.ticket = ticket then { e with fate := none } else e })
  | none => (if v.hasEnded ticket then .closed else .notYet, v)

/-- Puts a watch among the others: one that can go on at once before them, any other behind. -/
def enqueue (v : Vigil) (w : Watch) : Vigil :=
  { v with watches := if w.due ≤ v.now then w :: v.watches else v.watches ++ [w] }

/-- Gives watches up. What they would still have caused does not happen. -/
def abandon (v : Vigil) (tickets : List Nat) : Vigil :=
  { v with
    watches := v.watches.filter fun w => !tickets.contains w.ticket
    polls := v.polls.map fun p =>
      if tickets.contains p.ticket then
        { p with events := p.events.filter (·.time < v.settled) }
      else p }

/-- The requests made so far, with the nodes they were made to. -/
def asked (v : Vigil) : List (String × Request) :=
  Stamped.requests (v.polls.flatMap fun p => p.events.filter (·.time < v.settled))

/-- The moments at which a hash was polled, in order. -/
def pollTimes (v : Vigil) (hash : Hash) : List Millis :=
  ((v.polls.filter (·.hash == hash)).map (·.time)).reverse

end Vigil

/-- The first of the watches that go on earliest, and the others. -/
def earliest? : List Watch → Option (Watch × List Watch)
  | [] => none
  | w :: ws =>
    match earliest? ws with
    | some (u, rest) => if w.due ≤ u.due then some (w, ws) else some (u, w :: rest)
    | none => some (w, [])

namespace Monitor

/-- Lets a watch go on that is not among those of the vigil. -/
def step (m : Monitor) (v : Vigil) (w : Watch) : Vigil :=
  let v := { v with now := w.due }
  match w.phase with
  | .poll now =>
    let earlier := v.pollCount w.hash
    let reading := m.reader earlier now w.hash
    { v with polls := ⟨w.ticket, w.hash, now, earlier + 1, reading.events⟩ :: v.polls }.enqueue
      (w.polled m.policy now reading)
  | .answer now info =>
    match w.absorb m.policy now info with
    | .inl fate => { v with ends := v.ends ++ [⟨w.ticket, w.hash, fate⟩] }
    | .inr w => v.enqueue w

/-- Enough steps for a vigil to reach a moment: each poll moves a deadline, and each answer
    follows a poll. -/
def stepsTo (horizon : Millis) (v : Vigil) : Nat :=
  v.watches.foldl (fun n w => n + 2 * (horizon - w.deadline) + 1) 0

/-- Lets watches go on until a goal is reached, as long as they are due before a moment. -/
def driveFor (m : Monitor) (goal : Vigil → Bool) (horizon : Millis) : Nat → Vigil → Vigil
  | 0, v => v
  | n + 1, v =>
    if goal v then v
    else
      match earliest? v.watches with
      | none => v
      | some (w, ws) =>
        if w.due < horizon then driveFor m goal horizon n (m.step { v with watches := ws } w)
        else v

def drive (m : Monitor) (goal : Vigil → Bool) (horizon : Millis) (v : Vigil) : Vigil :=
  m.driveFor goal horizon (stepsTo horizon v) v

/-- Lets everything happen that is due before a moment. -/
def settle (m : Monitor) (horizon : Millis) (v : Vigil) : Vigil :=
  { m.drive (fun _ => false) horizon v with settled := max v.settled horizon }

/-- Lets time pass. What is due at the very end has not happened yet. -/
def advance (m : Monitor) (d : Millis) (v : Vigil) : Vigil :=
  let horizon := v.now + d
  { m.settle horizon v with now := horizon }

/-- Begins a watch. -/
def watch (m : Monitor) (hash : Hash) (v : Vigil) : Nat × Vigil :=
  (v.started,
    { v with
      started := v.started + 1
      watches := v.watches ++ [.start m.policy v.started hash v.now] })

def watchAll (m : Monitor) : List Hash → Vigil → List Nat × Vigil
  | [], v => ([], v)
  | hash :: hashes, v =>
    let (ticket, v) := m.watch hash v
    let (tickets, v) := m.watchAll hashes v
    (ticket :: tickets, v)

/-- Lets time pass until watches have ended, and tells whether they have within a limit. All else
    that is due at the moment when the last of them ends still happens. -/
def await (m : Monitor) (limit : Millis) (tickets : List Nat) (v : Vigil) : Bool × Vigil :=
  let goal (v : Vigil) : Bool := tickets.all v.hasEnded
  if goal v then (true, v)
  else
    let reached := m.drive goal (v.now + limit) v
    if goal reached then (true, { m.settle (reached.now + 1) reached with now := reached.now })
    else (false, m.advance limit v)

/-- Watches a hash until its fate is known, or nothing if that takes as long as the limit. The
    watch then goes on. -/
def wait (m : Monitor) (limit : Millis) (hash : Hash) (v : Vigil) : Option TxInfo × Vigil :=
  let (ticket, v) := m.watch hash v
  let (ended, v) := m.await limit [ticket] v
  if ended then
    (some ((v.fate? ticket).getD (.error "monitor task ended without a result")), v)
  else (none, v)

/-- The fates of watches by their hashes. Of two watches of one hash, the one that ended last
    counts; a watch that died does not. -/
def fates (tickets : List Nat) : List WatchEnd → List (Hash × TxInfo)
  | [] => []
  | e :: es =>
    let rest := fates tickets es
    match e.fate with
    | some info =>
      if tickets.contains e.ticket && !rest.any (·.1 == e.hash) then (e.hash, info) :: rest else rest
    | none => rest

/-- Watches hashes until all their fates are known, or nothing if that takes as long as the limit.
    The watches are then given up. -/
def waitMany (m : Monitor) (limit : Millis) (hashes : List Hash) (v : Vigil) :
    Option (List (Hash × TxInfo)) × Vigil :=
  let (tickets, v) := m.watchAll hashes v
  let (ended, v) := m.await limit tickets v
  if ended then (some (fates tickets v.ends), v) else (none, v.abandon tickets)

end Monitor

end NodeFleet

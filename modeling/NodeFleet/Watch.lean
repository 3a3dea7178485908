/-
  Watching a transaction until its fate is known.

  * `WatchPolicy`: how often to poll, and when a hash that nobody knows is given up;
    `WatchPolicy.verdict?` says what a poll settles.
  * `nextDeadline`: when the next poll is due. Polls keep to multiples of the interval unless one
    of them comes too late.
  * `StatusReader`: answers the polls; `Client.statusReader` asks the nodes.
  * `Watch`: a watch under way. It waits for its next poll or for the answer to its last.
-/
import NodeFleet.Client

namespace NodeFleet

structure WatchPolicy where
  interval : Millis
  /-- A hash that was never seen is lost once more than this has passed. As time is counted in whole
      milliseconds, a fraction of one would make no difference. -/
  lostAfter : Millis
  deriving DecidableEq

namespace WatchPolicy

def standard : WatchPolicy := ⟨5000, 180000⟩

/-- What an answer settles, given the time since the watch began and whether the transaction was
    seen before. A failed look-up and a pending transaction settle nothing, and a transaction that
    was seen is never lost. -/
def verdict? (p : WatchPolicy) (elapsed : Millis) (seen : Bool) (info : TxInfo) : Option TxInfo :=
  match info.status with
  | .error | .pending => none
  | .notFound => if !seen && p.lostAfter < elapsed then some .lost else none
  | .done | .reverted | .lost => some info

end WatchPolicy

/-! ## The schedule -/

/-- How late a poll may come without moving the schedule. -/
def toleratedLateness : Millis := 5

/-- The deadline after one that was met at a moment. -/
def nextDeadline (interval deadline now : Millis) : Millis :=
  if deadline + toleratedLateness < now then now + interval else deadline + interval

/-! ## Reading a status -/

/-- What reading the state of a hash comes to. -/
structure StatusReading where
  /-- When it is over. -/
  time : Millis
  /-- The answer, unless the reader died. -/
  info : Option TxInfo
  /-- What happened for it. -/
  events : List Stamped

/-- Reads the state of a hash at a moment. The number tells how often that hash was read
    before. -/
abbrev StatusReader := Nat → Millis → Hash → StatusReading

/-- Reads the state of a hash from the nodes. -/
def Client.statusReader (c : Client) : StatusReader := fun _ now hash =>
  let (info, s) := (c.txInfo hash).run (.startingAt now)
  ⟨s.now, some info, s.events⟩

/-! ## Watches -/

/-- What a watch waits for. -/
inductive WatchPhase where
  | poll (time : Millis)
  /-- The answer to a poll, which comes at a moment. -/
  | answer (time : Millis) (info : Option TxInfo)

/-- A watch under way. -/
structure Watch where
  ticket : Nat
  hash : Hash
  startedAt : Millis
  /-- Whether a poll found the transaction pending. -/
  seen : Bool
  /-- When the next poll is due. It may come later, as polls do not overlap. -/
  deadline : Millis
  phase : WatchPhase

namespace Watch

/-- A watch that begins. Its first poll is due after one interval; without an interval there is
    no schedule to keep, and the watch dies at once. -/
def start (p : WatchPolicy) (ticket : Nat) (hash : Hash) (now : Millis) : Watch where
  ticket
  hash
  startedAt := now
  seen := false
  deadline := now + p.interval
  phase := if p.interval = 0 then .answer now none else .poll (now + p.interval)

/-- When the watch goes on. -/
def due (w : Watch) : Millis :=
  match w.phase with
  | .poll time => time
  | .answer time _ => time

/-- The watch once it has polled. -/
def polled (w : Watch) (p : WatchPolicy) (now : Millis) (reading : StatusReading) : Watch :=
  { w with
    deadline := nextDeadline p.interval w.deadline now
    phase := .answer reading.time reading.info }

/-- The watch once it has got an answer that settles nothing. -/
def unsettled (w : Watch) (now : Millis) (info : TxInfo) : Watch :=
  { w with
    seen := w.seen || info.status == .pending
    phase := .poll (max w.deadline now) }

/-- What an answer means: the end of the watch, with the fate if the reader lived, or the watch as
    it goes on. -/
def absorb (w : Watch) (p : WatchPolicy) (now : Millis) : Option TxInfo → Option TxInfo ⊕ Watch
  | none => .inl none
  | some info =>
    match p.verdict? (now - w.startedAt) w.seen info with
    | some fate => .inl (some fate)
    | none => .inr (w.unsettled now info)

end Watch

end NodeFleet

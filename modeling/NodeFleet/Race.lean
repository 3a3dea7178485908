/-
  Asking several nodes the same thing.

  * `Delivery`: what one node answered; `race` takes the first success among deliveries,
    `raceOptional` the first that found something. Failing, they say what every node said.
  * `Attempt.heard`: what is heard of a call within the limit on its time.
  * `Ending`: how a node's part in a race ends.
  * `endings`: how the parts of all nodes end, in the order of time; parts that end together
    stand in the order of the nodes.
-/
import NodeFleet.Node

namespace NodeFleet

/-- What one node answered. -/
structure Delivery (α : Type) where
  node : String
  result : Result α

namespace Delivery

variable {α : Type}

/-- The first success among deliveries. -/
def raceFrom (operation : String) (errors : NodeErrors) : List (Delivery α) → Result α
  | [] => .error (.aggregate operation errors)
  | d :: ds =>
    match d.result with
    | .ok a => .ok a
    | .error e => raceFrom operation (errors.insert d.node e.nodeMessage) ds

def race (operation : String) (ds : List (Delivery α)) : Result α :=
  raceFrom operation .empty ds

/-- The first delivery that found something. Nothing was found if nobody found anything and
    somebody answered. -/
def raceOptionalFrom (operation : String) (errors : NodeErrors) (answered : Bool) :
    List (Delivery (Option α)) → Result (Option α)
  | [] => if answered then .ok none else .error (.aggregate operation errors)
  | d :: ds =>
    match d.result with
    | .ok (some a) => .ok (some a)
    | .ok none => raceOptionalFrom operation errors true ds
    | .error e => raceOptionalFrom operation (errors.insert d.node e.nodeMessage) answered ds

def raceOptional (operation : String) (ds : List (Delivery (Option α))) : Result (Option α) :=
  raceOptionalFrom operation .empty false ds

end Delivery

/-! ## Time -/

/-- How a node's part in a race ends: when, and with what delivery, if the call did not die. -/
structure Ending (α : Type) where
  time : Millis
  delivery : Option (Delivery α)

/-- The error of a node that took too long. -/
def timedOut (node : String) (limit : Millis) : Error :=
  .provider node ("timed out after " ++ Text.duration limit)

/-- What is heard of a call to a node: its outcome, or that it took too long. A call that is
    answered just within the limit is answered. -/
def Attempt.heard {α : Type} (a : Attempt α) (node : String) (limit : Millis) : Option (Result α) :=
  if a.delay ≤ limit then a.value else some (.error (timedOut node limit))

/-- How the part of a node ends that is asked at a moment. -/
def Node.ending (node : Node) (limit now : Millis) (r : Request) : Ending r.Answer :=
  let attempt := node.serve now r
  ⟨now + min attempt.delay limit, (attempt.heard node.name limit).map (⟨node.name, ·⟩)⟩

/-- How the parts of all nodes end, in the order of time. -/
def endings (nodes : List Node) (limit now : Millis) (r : Request) : List (Ending r.Answer) :=
  (nodes.map (·.ending limit now r)).mergeSort fun a b => a.time ≤ b.time

namespace Ending

variable {α : Type}

def deliveries (es : List (Ending α)) : List (Delivery α) := es.filterMap (·.delivery)

/-- Whether a race is over with this ending. -/
def decides (wins : α → Bool) (e : Ending α) : Bool :=
  match e.delivery with
  | some ⟨_, .ok a⟩ => wins a
  | _ => false

/-- When the last part has ended. -/
def lastTime (now : Millis) (es : List (Ending α)) : Millis := es.foldl (fun t e => max t e.time) now

/-- When a race that began at `now` is over: with the first success, or with the last part. -/
def overAt (wins : α → Bool) (now : Millis) (es : List (Ending α)) : Millis :=
  match es.find? (·.decides wins) with
  | some e => e.time
  | none => lastTime now es

end Ending

end NodeFleet

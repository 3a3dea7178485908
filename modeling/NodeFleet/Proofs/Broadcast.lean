/-
  What comes of bytes that are sent to every node, whatever order the nodes end in.

  * `Broadcaster.Completes`: the orders in which the parts of the nodes can end.
  * `Broadcaster.Accepts`, `Broadcaster.Refuses`: what a node does with the bytes within its time.
  * `BroadcastOutcome.Tells`: an outcome that tells just this of every node.
  * `sendRaw_hears_all`: what a broadcaster does and what its outcome tells.
-/
import NodeFleet.Broadcaster
import NodeFleet.Proofs.Delivery
import Mathlib.Data.List.Nodup

namespace NodeFleet

namespace BroadcastOutcome

/-- The refusals are the complaints of the deliveries. -/
theorem refusals_eq_foldl (errors : NodeErrors) (ds : List (Delivery Hash)) :
    refusals errors ds = ds.foldl Delivery.note errors := by
  induction ds generalizing errors with
  | nil => rfl
  | cons d ds ih =>
    rw [List.foldl_cons, ← ih, refusals]
    cases h : d.result <;> simp [Delivery.note, Delivery.complaint?, Result.complaint?, h]

theorem get?_errors_collect {raw : Bytes} {ds : List (Delivery Hash)}
    (hnd : (ds.map (·.node)).Nodup) {name text : String} :
    (collect raw ds).errors.get? name = some text ↔
      ∃ d ∈ ds, d.node = name ∧ ∃ e, d.result = .error e ∧ e.nodeMessage = text := by
  rw [collect, refusals_eq_foldl, Delivery.get?_foldl_note hnd]
  simp [Delivery.complaint?, Result.complaint?_eq_some_iff]

theorem broadcasted_collect {raw : Bytes} {ds : List (Delivery Hash)} :
    (collect raw ds).broadcasted = true ↔ ∃ d ∈ ds, ∃ h, d.result = .ok h := by
  simp only [collect, List.any_eq_true]
  refine exists_congr fun d => and_congr_right fun _ => ?_
  cases d.result <;> simp [Except.toBool]

/-- **The order of deliveries leaves no trace in the outcome.** -/
theorem collect_perm {raw : Bytes} {ds ds' : List (Delivery Hash)}
    (hnd : (ds.map (·.node)).Nodup) (h : ds.Perm ds') : collect raw ds = collect raw ds' := by
  have hnd' : (ds'.map (·.node)).Nodup := (h.map _).nodup_iff.1 hnd
  have hbroadcasted : (collect raw ds).broadcasted = (collect raw ds').broadcasted := by
    rw [Bool.eq_iff_iff, broadcasted_collect, broadcasted_collect]
    simp only [h.mem_iff]
  have herrors : (collect raw ds).errors = (collect raw ds').errors := by
    refine NameMap.ext_get? fun name => Option.ext fun text => ?_
    rw [get?_errors_collect hnd, get?_errors_collect hnd']
    simp only [h.mem_iff]
  rw [BroadcastOutcome.mk.injEq]
  exact ⟨rfl, hbroadcasted, herrors⟩

end BroadcastOutcome

namespace Broadcaster

section
variable (b : Broadcaster) (now : Millis) (raw : Bytes)

/-- The orders in which the parts of all nodes can end that are sent bytes at a moment. -/
def Completes (es : List (Ending Hash)) : Prop :=
  es.Perm (b.nodes.map (·.ending b.callTimeout now (.sendRaw raw)))

/-- A node takes the bytes within its time. -/
def Accepts (n : Node) : Prop :=
  (n.serve now (.sendRaw raw)).delay ≤ b.callTimeout ∧
    ∃ hash, (n.serve now (.sendRaw raw)).value = some (.ok hash)

/-- A node refuses the bytes within its time, or is out of time, and this is what it says. -/
def Refuses (n : Node) (text : String) : Prop :=
  (n.serve now (.sendRaw raw)).delay ≤ b.callTimeout ∧
      (∃ e, (n.serve now (.sendRaw raw)).value = some (.error e) ∧ e.nodeMessage = text) ∨
    b.callTimeout < (n.serve now (.sendRaw raw)).delay ∧
      text = "timed out after " ++ Text.duration b.callTimeout

end

end Broadcaster

/-- An outcome that tells of every node what it did with the bytes. -/
structure BroadcastOutcome.Tells (o : BroadcastOutcome) (b : Broadcaster) (now : Millis)
    (raw : Bytes) : Prop where
  hash : o.hash = Hash.ofKeccak raw
  broadcasted : o.broadcasted = true ↔ ∃ n ∈ b.nodes, b.Accepts now raw n
  errors : ∀ name text, o.errors.get? name = some text ↔
    ∃ n ∈ b.nodes, n.name = name ∧ b.Refuses now raw n text
  accepted : ∀ n ∈ b.nodes, b.Accepts now raw n → o.errors.get? n.name = none

theorem Attempt.heard_eq_ok_iff {α : Type} {a : Attempt α} {node : String} {limit : Millis}
    {v : α} : a.heard node limit = some (.ok v) ↔ a.delay ≤ limit ∧ a.value = some (.ok v) := by
  unfold Attempt.heard
  split_ifs with h <;> simp [h]

theorem Attempt.heard_eq_error_iff {α : Type} {a : Attempt α} {node : String} {limit : Millis}
    {e : Error} : a.heard node limit = some (.error e) ↔
      a.delay ≤ limit ∧ a.value = some (.error e) ∨ limit < a.delay ∧ e = timedOut node limit := by
  unfold Attempt.heard
  split_ifs with h
  · simp [h, Nat.not_lt.2 h]
  · simp [h, Nat.not_le.1 h, eq_comm]

namespace Broadcaster

variable {b : Broadcaster} {now : Millis} {raw : Bytes} {es es' : List (Ending Hash)}

theorem accepts_iff {n : Node} : b.Accepts now raw n ↔
    ∃ hash, (n.serve now (.sendRaw raw)).heard n.name b.callTimeout = some (.ok hash) := by
  simp [Accepts, Attempt.heard_eq_ok_iff]

theorem refuses_iff {n : Node} {text : String} : b.Refuses now raw n text ↔
    ∃ e, (n.serve now (.sendRaw raw)).heard n.name b.callTimeout = some (.error e) ∧
      e.nodeMessage = text := by
  simp only [Refuses, Attempt.heard_eq_error_iff]
  constructor
  · rintro (⟨hin, e, hvalue, he⟩ | ⟨hout, rfl⟩)
    · exact ⟨e, Or.inl ⟨hin, hvalue⟩, he⟩
    · exact ⟨_, Or.inr ⟨hout, rfl⟩, rfl⟩
  · rintro ⟨e, ⟨hin, hvalue⟩ | ⟨hout, rfl⟩, he⟩
    · exact Or.inl ⟨hin, e, hvalue, he⟩
    · exact Or.inr ⟨hout, he.symm⟩

theorem Completes.deliveries_perm (h : b.Completes now raw es) : (Ending.deliveries es).Perm
    (Delivery.ofNodes b.nodes b.callTimeout (·.serve now (.sendRaw raw))) :=
  Delivery.deliveries_perm (r := .sendRaw raw) h

/-- No two deliveries have the same name if no two nodes have. -/
theorem Completes.nodup (h : b.Completes now raw es) (hnames : (b.nodes.map (·.name)).Nodup) :
    ((Ending.deliveries es).map (·.node)).Nodup :=
  (h.deliveries_perm.map _).nodup_iff.2 (Delivery.nodup_ofNodes hnames)

/-- What is collected of the deliveries tells of every node. -/
theorem Completes.tells (h : b.Completes now raw es) (hnames : (b.nodes.map (·.name)).Nodup) :
    (BroadcastOutcome.collect raw (Ending.deliveries es)).Tells b now raw := by
  have hmem : ∀ d, d ∈ Ending.deliveries es ↔ _ := fun d =>
    h.deliveries_perm.mem_iff.trans Delivery.mem_ofNodes
  have herrors : ∀ name text,
      (BroadcastOutcome.collect raw (Ending.deliveries es)).errors.get? name = some text ↔
        ∃ n ∈ b.nodes, n.name = name ∧ b.Refuses now raw n text := by
    intro name text
    rw [BroadcastOutcome.get?_errors_collect (h.nodup hnames)]
    simp only [hmem, refuses_iff]
    constructor
    · rintro ⟨d, ⟨n, hn, hname, hheard⟩, rfl, e, hd, he⟩
      exact ⟨n, hn, hname, e, hd ▸ hheard, he⟩
    · rintro ⟨n, hn, rfl, e, hheard, he⟩
      exact ⟨⟨n.name, .error e⟩, ⟨n, hn, rfl, hheard⟩, rfl, e, rfl, he⟩
  refine ⟨rfl, ?_, herrors, fun n hn haccepts => ?_⟩
  · rw [BroadcastOutcome.broadcasted_collect]
    simp only [hmem, accepts_iff]
    constructor
    · rintro ⟨d, ⟨n, hn, -, hheard⟩, hash, hd⟩
      exact ⟨n, hn, hash, hd ▸ hheard⟩
    · rintro ⟨n, hn, hash, hheard⟩
      exact ⟨⟨n.name, .ok hash⟩, ⟨n, hn, rfl, hheard⟩, hash, rfl⟩
  · rw [Option.eq_none_iff_forall_ne_some]
    intro text htext
    obtain ⟨n', hn', hname, hrefuses⟩ := (herrors n.name text).1 htext
    obtain rfl := List.inj_on_of_nodup_map hnames hn' hn hname
    obtain ⟨hash, hok⟩ := accepts_iff.1 haccepts
    obtain ⟨e, herror, -⟩ := refuses_iff.1 hrefuses
    rw [hok] at herror
    cases herror

theorem Completes.collect_eq (h : b.Completes now raw es) (h' : b.Completes now raw es')
    (hnames : (b.nodes.map (·.name)).Nodup) :
    BroadcastOutcome.collect raw (Ending.deliveries es) =
      .collect raw (Ending.deliveries es') :=
  BroadcastOutcome.collect_perm (h.nodup hnames)
    (h.deliveries_perm.trans h'.deliveries_perm.symm)

theorem completes_endings (b : Broadcaster) (now : Millis) (raw : Bytes) :
    b.Completes now raw (endings b.nodes b.callTimeout now (.sendRaw raw)) :=
  List.mergeSort_perm ..

theorem run_sendRaw (b : Broadcaster) (raw : Bytes) (s : Session) :
    (b.sendRaw raw).run s =
      (.collect raw (Ending.deliveries (endings b.nodes b.callTimeout s.now (.sendRaw raw))),
        { s.record (b.nodes.map fun n => .asked n.name (.sendRaw raw)) with
          now := Ending.lastTime s.now (endings b.nodes b.callTimeout s.now (.sendRaw raw)) }) :=
  rfl

/-- **A broadcaster sends the bytes once to every node and comes back when the last one is done**,
    whatever they do. Its outcome tells which of them took the bytes and what the others said; the
    order in which they end leaves no trace in it. -/
theorem sendRaw_hears_all (b : Broadcaster) (raw : Bytes) (s : Session)
    (hnames : (b.nodes.map (·.name)).Nodup) :
    ((b.sendRaw raw).run s).1.Tells b s.now raw ∧
    (∀ es, b.Completes s.now raw es →
      ((b.sendRaw raw).run s).1 = .collect raw (Ending.deliveries es)) ∧
    ((b.sendRaw raw).run s).2.events =
      s.events ++ b.nodes.map (fun n => ⟨s.now, .asked n.name (.sendRaw raw)⟩) ∧
    (∀ n ∈ b.nodes, (n.ending b.callTimeout s.now (.sendRaw raw)).time ≤
      ((b.sendRaw raw).run s).2.now) ∧
    (((b.sendRaw raw).run s).2.now = s.now ∨ ∃ n ∈ b.nodes,
      ((b.sendRaw raw).run s).2.now = (n.ending b.callTimeout s.now (.sendRaw raw)).time) := by
  have hcompletes := b.completes_endings s.now raw
  rw [run_sendRaw]
  refine ⟨hcompletes.tells hnames, fun es hes => hcompletes.collect_eq hes hnames, ?_, ?_, ?_⟩
  · simp [Session.record]
  · intro n hn
    exact Ending.le_lastTime_of_mem (hcompletes.mem_iff.2 (List.mem_map_of_mem hn))
  · refine (Ending.lastTime_eq s.now _).imp_right ?_
    rintro ⟨e, he, htime⟩
    obtain ⟨n, hn, rfl⟩ := List.mem_map.1 (hcompletes.mem_iff.1 he)
    exact ⟨n, hn, htime⟩

end Broadcaster

/-- A node that has one answer to everything it is sent. -/
def Node.sentTo (name : String) (delay : Millis) (answer : Option (Result Hash)) : Node where
  name
  serve _ r :=
    match r with
    | .sendRaw _ => ⟨delay, answer⟩
    | _ => ⟨0, none⟩

namespace Broadcaster

/-- One node takes the bytes, one refuses them, one is too slow and one dies of them. -/
theorem sendRaw_hears_all_of_four :
    let b : Broadcaster := ⟨[.sentTo "a" 9 (some (.ok .zero)),
      .sentTo "b" 0 (some (.error (.provider "b" "nonce too low"))),
      .sentTo "c" 5000 (some (.ok .zero)), .sentTo "d" 1 none], 4000⟩
    let sent := (b.sendRaw [1, 2]).run .start
    (b.nodes.map (·.name)).Nodup ∧ sent.1.broadcasted = true ∧
      sent.1.errors.get? "a" = none ∧ sent.1.errors.get? "b" = some "nonce too low" ∧
      sent.1.errors.get? "c" = some "timed out after 4s" ∧ 4000 ≤ sent.2.now ∧
      sent.2.asked.length = 4 := by
  intro b sent
  have hnames : (b.nodes.map (·.name)).Nodup := by decide
  obtain ⟨htells, -, hevents, hover, -⟩ := sendRaw_hears_all b [1, 2] .start hnames
  have haccepts : b.Accepts 0 [1, 2] (.sentTo "a" 9 (some (.ok .zero))) :=
    ⟨by decide, .zero, rfl⟩
  refine ⟨hnames, htells.broadcasted.2 ⟨_, .head _, haccepts⟩,
    htells.accepted _ (.head _) haccepts, (htells.errors ..).2 ⟨_, .tail _ (.head _), rfl, ?_⟩,
    (htells.errors ..).2 ⟨_, .tail _ (.tail _ (.head _)), rfl, ?_⟩,
    hover _ (.tail _ (.tail _ (.head _))), ?_⟩
  · exact Or.inl ⟨by decide, _, rfl, rfl⟩
  · exact Or.inr ⟨by decide, by decide +kernel⟩
  · rw [Session.asked, hevents]
    rfl

end Broadcaster

end NodeFleet

/-
  Many watches, as a system of which one watch at a time goes on.

  * `Monitor.Goes`: what it comes to that one watch goes on (`step_goes`).
  * `Monitor.Tick`: a watch goes on or the clock is set; `Monitor.Move`: also a watch begins, is
    asked for its result or is given up. No order is assumed: any watch may go on at any moment.
    `Monitor.Run`: any number of moves. What a monitor does in the order of time is one of these
    runs (`ticks_drive`, `ticks_advance`, `ticks_await`).
  * `Vigil.Distinct`: no two watches share a ticket (`Run.distinct`).
  * `Move.keeps_or_goes`: for one watch a move is a step of its own, or nothing.
  * `Monitor.Traces`: what a vigil knows of one watch, kept by each move (`Traces.move`) and so by
    each run (`Traces.run`).
-/
import Mathlib.Logic.Relation
import Mathlib.Tactic.SplitIfs
import NodeFleet.Monitor
import NodeFleet.Proofs.Watch

namespace NodeFleet

theorem earliest?_eq_none {watches : List Watch} (h : earliest? watches = none) : watches = [] := by
  cases watches with
  | nil => rfl
  | cons w ws =>
    rw [earliest?] at h
    split at h
    · split_ifs at h
    · cases h

theorem earliest?_perm {watches : List Watch} {w : Watch} {ws : List Watch}
    (h : earliest? watches = some (w, ws)) : watches.Perm (w :: ws) := by
  induction watches generalizing w ws with
  | nil => cases h
  | cons u us ih =>
    rw [earliest?] at h
    split at h
    · next x rest hx =>
      split_ifs at h
      · cases h
        exact .refl _
      · cases h
        exact ((ih hx).cons u).trans (.swap ..)
    · next hnone =>
      cases h
      rw [earliest?_eq_none hnone]

namespace Vigil

theorem enqueue_perm (v : Vigil) (w : Watch) : (v.enqueue w).watches.Perm (w :: v.watches) := by
  unfold enqueue
  dsimp only
  split_ifs
  · exact .refl _
  · exact List.perm_append_singleton w v.watches

/-- The polls of a watch, the last one first, without what happened for them. -/
def pollsOf (v : Vigil) (ticket : Nat) : List Poll :=
  (v.polls.filter (·.ticket == ticket)).map fun p => { p with events := [] }

section
variable {v v' : Vigil} {t : Nat}

theorem pollsOf_congr (h : v'.polls = v.polls) : v'.pollsOf t = v.pollsOf t := by
  rw [pollsOf, h, pollsOf]

theorem pollsOf_of_cons {p : Poll} (h : v'.polls = p :: v.polls) (ht : p.ticket = t) :
    v'.pollsOf t = { p with events := [] } :: v.pollsOf t := by
  rw [pollsOf, h, List.filter_cons_of_pos (by simpa using ht), List.map_cons, pollsOf]

theorem pollsOf_of_cons_ne {p : Poll} (h : v'.polls = p :: v.polls) (ht : p.ticket ≠ t) :
    v'.pollsOf t = v.pollsOf t := by
  rw [pollsOf, h, List.filter_cons_of_neg (by simpa using ht), pollsOf]

end

/-- The tickets of the watches under way and of those that ended. -/
def tickets (v : Vigil) : List Nat := v.watches.map (·.ticket) ++ v.ends.map (·.ticket)

end Vigil

namespace Monitor

/-- What a poll read. -/
def reading (m : Monitor) (p : Poll) : StatusReading := m.reader (p.number - 1) p.time p.hash

/-- What the polls of a watch read, the last one first. -/
def readings (m : Monitor) (v : Vigil) (ticket : Nat) : List StatusReading :=
  (v.pollsOf ticket).map m.reading

/-! ## One step -/

/-- What it comes to that a watch goes on while others are under way: it polls, goes on after an
    answer, or ends. -/
inductive Goes (m : Monitor) (v : Vigil) (w : Watch) (ws : List Watch) (v' : Vigil) : Prop where
  | polls (p : Poll) (phase : w.phase = .poll p.time) (ticket : p.ticket = w.ticket)
      (hash : p.hash = w.hash) (polls : v'.polls = p :: v.polls) (ends : v'.ends = v.ends)
      (watches : v'.watches.Perm (w.polled m.policy p.time (m.reading p) :: ws))
      (started : v'.started = v.started)
  | waits (now : Millis) (info : Option TxInfo) (u : Watch) (phase : w.phase = .answer now info)
      (absorb : w.absorb m.policy now info = .inr u) (polls : v'.polls = v.polls)
      (ends : v'.ends = v.ends) (watches : v'.watches.Perm (u :: ws))
      (started : v'.started = v.started)
  | ends (now : Millis) (info fate : Option TxInfo) (phase : w.phase = .answer now info)
      (absorb : w.absorb m.policy now info = .inl fate) (polls : v'.polls = v.polls)
      (ends : v'.ends = v.ends ++ [⟨w.ticket, w.hash, fate⟩]) (watches : v'.watches = ws)
      (started : v'.started = v.started)

variable {m : Monitor} {v v' : Vigil} {w : Watch} {ws : List Watch} {t : Nat} {hash : Hash}
  {start : Millis}

theorem step_goes (m : Monitor) (v : Vigil) (w : Watch) (ws : List Watch) :
    m.Goes v w ws (m.step { v with watches := ws } w) := by
  unfold step
  cases hphase : w.phase with
  | poll now =>
    exact .polls ⟨w.ticket, w.hash, now, _, _⟩ hphase rfl rfl rfl rfl (Vigil.enqueue_perm _ _)
      rfl
  | answer now info =>
    dsimp only
    cases hw : w.absorb m.policy now info with
    | inl fate => exact .ends now info fate hphase hw rfl rfl rfl rfl
    | inr u => exact .waits now info u hphase hw rfl rfl (Vigil.enqueue_perm _ _) rfl

theorem Goes.started (g : m.Goes v w ws v') : v'.started = v.started := by
  cases g <;> assumption

/-- No ticket comes or goes when a watch goes on. -/
theorem Goes.tickets (g : m.Goes v w ws v') (hw : v.watches.Perm (w :: ws)) :
    v'.tickets.Perm v.tickets := by
  have hold := hw.map (·.ticket)
  cases g with
  | polls p _ _ _ _ hends hws =>
    rw [Vigil.tickets, hends]
    exact ((hws.map (·.ticket)).trans hold.symm).append_right _
  | waits now info u _ habsorb _ hends hws =>
    have hu : u.ticket = w.ticket := (Watch.absorb_inr habsorb).1
    rw [Vigil.tickets, hends]
    refine ((hws.map (·.ticket)).trans ?_).append_right _
    rw [List.map_cons, hu]
    exact hold.symm
  | ends now info fate _ _ _ hends hws =>
    rw [Vigil.tickets, hends, hws, List.map_append, ← List.append_assoc]
    exact (List.perm_append_singleton _ _).trans (hold.symm.append_right _)

/-! ## Moves -/

/-- What happens by itself: a watch goes on, or the clock is set. -/
inductive Tick (m : Monitor) : Vigil → Vigil → Prop where
  | step {v : Vigil} {w : Watch} {ws : List Watch} (h : v.watches.Perm (w :: ws)) :
      Tick m v (m.step { v with watches := ws } w)
  | clock (v : Vigil) (now settled : Millis) : Tick m v { v with now, settled }

abbrev Ticks (m : Monitor) : Vigil → Vigil → Prop := Relation.ReflTransGen m.Tick

/-- What can happen to a vigil. -/
inductive Move (m : Monitor) : Vigil → Vigil → Prop where
  | tick {v v' : Vigil} (h : m.Tick v v') : Move m v v'
  | watch (v : Vigil) (hash : Hash) : Move m v (m.watch hash v).2
  | collect (v : Vigil) (ticket : Nat) : Move m v (v.collect ticket).2
  | abandon (v : Vigil) (tickets : List Nat) : Move m v (v.abandon tickets)

abbrev Run (m : Monitor) : Vigil → Vigil → Prop := Relation.ReflTransGen m.Move

theorem Ticks.run (h : m.Ticks v v') : m.Run v v' :=
  Relation.ReflTransGen.mono (fun _ _ => .tick) _ _ h

/-- What each step keeps that is due before a moment is kept as long as watches go on. -/
theorem driveFor_induction {P : Vigil → Prop} {horizon : Millis}
    (hstep : ∀ v w ws, v.watches.Perm (w :: ws) → w.due < horizon → P v →
      P (m.step { v with watches := ws } w)) (goal : Vigil → Bool) (n : Nat) (h : P v) :
    P (m.driveFor goal horizon n v) := by
  induction n generalizing v with
  | zero => exact h
  | succ n ih =>
    rw [driveFor]
    split_ifs
    · exact h
    · split
      · exact h
      · next w ws hw =>
        split_ifs with hdue
        · exact ih (hstep v w ws (earliest?_perm hw) hdue h)
        · exact h

theorem ticks_driveFor (m : Monitor) (goal : Vigil → Bool) (horizon : Millis) (n : Nat)
    (v : Vigil) : m.Ticks v (m.driveFor goal horizon n v) :=
  driveFor_induction (P := m.Ticks v) (fun _ _ _ hw _ h => h.tail (.step hw)) goal n .refl

theorem ticks_drive (m : Monitor) (goal : Vigil → Bool) (horizon : Millis) (v : Vigil) :
    m.Ticks v (m.drive goal horizon v) :=
  m.ticks_driveFor goal horizon _ v

theorem ticks_settle (m : Monitor) (horizon : Millis) (v : Vigil) :
    m.Ticks v (m.settle horizon v) :=
  .tail (m.ticks_drive _ horizon v) (.clock _ _ _)

theorem ticks_advance (m : Monitor) (d : Millis) (v : Vigil) : m.Ticks v (m.advance d v) :=
  .tail (m.ticks_settle _ v) (.clock _ _ _)

theorem ticks_await (m : Monitor) (limit : Millis) (tickets : List Nat) (v : Vigil) :
    m.Ticks v (m.await limit tickets v).2 := by
  unfold await
  dsimp only
  split_ifs
  · exact .refl
  · exact ((m.ticks_drive _ _ v).trans (m.ticks_settle _ _)).tail (.clock _ _ _)
  · exact m.ticks_advance limit v

theorem run_watchAll (m : Monitor) (hashes : List Hash) (v : Vigil) :
    m.Run v (m.watchAll hashes v).2 := by
  induction hashes generalizing v with
  | nil => exact .refl
  | cons hash hashes ih => exact .head (.watch v hash) (ih _)

/-! ## Watches stay ended -/

theorem Goes.keeps_ends (g : m.Goes v w ws v') : v.ends <+: v'.ends := by
  cases g with
  | polls _ _ _ _ _ hends => exact hends ▸ List.prefix_rfl
  | waits _ _ _ _ _ _ hends => exact hends ▸ List.prefix_rfl
  | ends _ _ _ _ _ _ hends => exact hends ▸ List.prefix_append _ _

theorem Ticks.keeps_ends (h : m.Ticks v v') : v.ends <+: v'.ends := by
  induction h with
  | refl => exact List.prefix_rfl
  | tail _ htick ih =>
    refine ih.trans ?_
    cases htick with
    | step => exact (m.step_goes _ _ _).keeps_ends
    | clock => exact List.prefix_rfl

theorem Ticks.hasEnded (h : m.Ticks v v') (hv : v.hasEnded t = true) : v'.hasEnded t = true := by
  obtain ⟨e, he, ht⟩ := List.any_eq_true.1 hv
  exact List.any_eq_true.2 ⟨e, (Ticks.keeps_ends h).subset he, ht⟩

/-- Watches that were waited for to the end have ended. -/
theorem await_hasEnded {limit : Millis} {tickets : List Nat}
    (h : (m.await limit tickets v).1 = true) :
    ∀ t ∈ tickets, (m.await limit tickets v).2.hasEnded t = true := by
  unfold await at h ⊢
  dsimp only at h ⊢
  split_ifs at h ⊢ with hnow hreached
  · exact List.all_eq_true.1 hnow
  · intro t ht
    exact Ticks.hasEnded (.tail (m.ticks_settle _ _) (.clock _ _ _))
      (List.all_eq_true.1 hreached t ht)

end Monitor

/-! ## Tickets -/

/-- No two watches share a ticket, and tickets are counted up. -/
structure Vigil.Distinct (v : Vigil) : Prop where
  nodup : v.tickets.Nodup
  begun : ∀ t ∈ v.tickets, t < v.started
  polled : ∀ p ∈ v.polls, p.ticket < v.started

section
variable {m : Monitor} {v v' : Vigil} {w : Watch} {ws : List Watch}

theorem Vigil.distinct_start : Vigil.start.Distinct :=
  ⟨List.nodup_nil, nofun, nofun⟩

theorem Vigil.mem_tickets_of_watch (h : w ∈ v.watches) : w.ticket ∈ v.tickets :=
  List.mem_append_left _ (List.mem_map_of_mem h)

theorem Vigil.mem_tickets_of_end {e : WatchEnd} (h : e ∈ v.ends) : e.ticket ∈ v.tickets :=
  List.mem_append_right _ (List.mem_map_of_mem h)

/-- The watch that goes on shares its ticket with no other watch, under way or ended. -/
theorem Vigil.Distinct.alone (d : v.Distinct) (hw : v.watches.Perm (w :: ws)) :
    (∀ u ∈ ws, u.ticket ≠ w.ticket) ∧ ∀ e ∈ v.ends, e.ticket ≠ w.ticket := by
  have hnodup : (w.ticket :: (ws.map (·.ticket) ++ v.ends.map (·.ticket))).Nodup :=
    ((hw.map (·.ticket)).append_right _).nodup_iff.1 d.nodup
  have hnot := (List.nodup_cons.1 hnodup).1
  rw [List.mem_append, not_or] at hnot
  constructor
  · intro u hu heq
    exact hnot.1 (heq ▸ List.mem_map_of_mem hu)
  · intro e he heq
    exact hnot.2 (heq ▸ List.mem_map_of_mem he)

/-- No watch under way has ended. -/
theorem Vigil.Distinct.ends_ne (d : v.Distinct) (hw : w ∈ v.watches) {e : WatchEnd}
    (he : e ∈ v.ends) : e.ticket ≠ w.ticket :=
  ((List.nodup_append.1 d.nodup).2.2 _ (List.mem_map_of_mem hw) _ (List.mem_map_of_mem he)).symm

theorem Monitor.Goes.distinct (g : m.Goes v w ws v') (hw : v.watches.Perm (w :: ws))
    (d : v.Distinct) : v'.Distinct := by
  refine ⟨(g.tickets hw).nodup_iff.2 d.nodup, ?_, ?_⟩
  · intro t ht
    rw [g.started]
    exact d.begun t ((g.tickets hw).mem_iff.1 ht)
  · have hticket : w.ticket < v.started :=
      d.begun _ (Vigil.mem_tickets_of_watch (hw.mem_iff.2 List.mem_cons_self))
    intro p hp
    rw [g.started]
    cases g with
    | polls q _ hq _ hpolls =>
      rw [hpolls, List.mem_cons] at hp
      rcases hp with rfl | hp
      · exact hq ▸ hticket
      · exact d.polled p hp
    | waits _ _ _ _ _ hpolls => exact d.polled p (hpolls ▸ hp)
    | ends _ _ _ _ _ hpolls => exact d.polled p (hpolls ▸ hp)

theorem Vigil.Distinct.watch (d : v.Distinct) (m : Monitor) (hash : Hash) :
    (m.watch hash v).2.Distinct := by
  have htickets : (m.watch hash v).2.tickets.Perm (v.started :: v.tickets) := by
    simp only [Monitor.watch, tickets, List.map_append, List.map_cons, List.map_nil,
      List.append_assoc]
    exact List.perm_middle
  refine ⟨htickets.nodup_iff.2 (List.nodup_cons.2 ⟨?_, d.nodup⟩), ?_, ?_⟩
  · exact fun h => Nat.lt_irrefl _ (d.begun _ h)
  · intro t ht
    rcases List.mem_cons.1 (htickets.mem_iff.1 ht) with rfl | ht
    · exact Nat.lt_succ_self _
    · exact Nat.lt_succ_of_lt (d.begun t ht)
  · exact fun p hp => Nat.lt_succ_of_lt (d.polled p hp)

theorem Vigil.tickets_collect (v : Vigil) (ticket : Nat) :
    (v.collect ticket).2.tickets = v.tickets := by
  unfold collect
  split
  · have hends : ∀ e : WatchEnd,
        (if e.ticket = ticket then { e with fate := none } else e).ticket = e.ticket := by
      intro e
      split_ifs <;> rfl
    simp only [tickets, List.map_map, Function.comp_def, hends]
  · rfl

theorem Vigil.Distinct.collect (d : v.Distinct) (ticket : Nat) :
    (v.collect ticket).2.Distinct := by
  have hrest : (v.collect ticket).2.started = v.started ∧
      (v.collect ticket).2.polls = v.polls := by
    unfold Vigil.collect
    split <;> exact ⟨rfl, rfl⟩
  refine ⟨?_, ?_, ?_⟩
  · rw [v.tickets_collect ticket]
    exact d.nodup
  · rw [v.tickets_collect ticket, hrest.1]
    exact d.begun
  · rw [hrest.2, hrest.1]
    exact d.polled

theorem Vigil.Distinct.abandon (d : v.Distinct) (given : List Nat) :
    (v.abandon given).Distinct := by
  have htickets : (v.abandon given).tickets.Sublist v.tickets :=
    (List.filter_sublist.map _).append_right _
  refine ⟨d.nodup.sublist htickets, fun t ht => d.begun t (htickets.subset ht), ?_⟩
  intro p hp
  obtain ⟨q, hq, rfl⟩ := List.mem_map.1 hp
  split_ifs <;> exact d.polled q hq

theorem Vigil.Distinct.move (d : v.Distinct) (h : m.Move v v') : v'.Distinct := by
  cases h with
  | tick h =>
    cases h with
    | step hw => exact (m.step_goes v _ _).distinct hw d
    | clock => exact ⟨d.nodup, d.begun, d.polled⟩
  | watch hash => exact d.watch m hash
  | collect ticket => exact d.collect ticket
  | abandon given => exact d.abandon given

/-- **Whatever happens, no two watches share a ticket.** -/
theorem Monitor.Run.distinct (h : m.Run v v') (d : v.Distinct) : v'.Distinct := by
  induction h with
  | refl => exact d
  | tail _ hmove ih => exact ih.move hmove

end

/-! ## One watch -/

/-- A vigil that says of a watch what another said, or less. -/
structure Vigil.Keeps (ticket : Nat) (v v' : Vigil) : Prop where
  begun : v.started ≤ v'.started
  polls : v'.pollsOf ticket = v.pollsOf ticket
  watches : ∀ w ∈ v'.watches, w.ticket = ticket → w ∈ v.watches
  ends : ∀ e ∈ v'.ends, e.ticket = ticket →
    ∃ fate, { e with fate } ∈ v.ends ∧ (e.fate = none ∨ e.fate = fate)

/-- What a vigil knows of a watch of a hash that began at a moment: what the polls read is what
    the watch follows, or what decided its end. -/
structure Monitor.Traces (m : Monitor) (ticket : Nat) (hash : Hash) (start : Millis)
    (v : Vigil) : Prop where
  begun : ticket < v.started
  polls : ∀ p ∈ v.pollsOf ticket, p.hash = hash
  follows : ∀ w ∈ v.watches, w.ticket = ticket →
    w.hash = hash ∧ Watch.Follows m.policy start (m.readings v ticket) w
  decides : ∀ e ∈ v.ends, e.ticket = ticket →
    e.hash = hash ∧ ∀ info, e.fate = some info →
      m.policy.Decides start (m.readings v ticket) (some info)

section
variable {m : Monitor} {v v' : Vigil} {w : Watch} {ws : List Watch} {t : Nat} {hash : Hash}
  {start : Millis}

theorem Vigil.Keeps.of_ends (hstarted : v.started ≤ v'.started)
    (hpolls : v'.pollsOf t = v.pollsOf t)
    (hwatches : ∀ w ∈ v'.watches, w.ticket = t → w ∈ v.watches)
    (hends : ∀ e ∈ v'.ends, e.ticket = t → e ∈ v.ends) : v.Keeps t v' :=
  ⟨hstarted, hpolls, hwatches, fun e he ht => ⟨e.fate, hends e he ht, Or.inr rfl⟩⟩

/-- Of the other watches nothing changes when a watch goes on. -/
theorem Monitor.Goes.keeps (g : m.Goes v w ws v') (hw : v.watches.Perm (w :: ws))
    (hne : w.ticket ≠ t) : v.Keeps t v' := by
  have hstarted := Nat.le_of_eq g.started.symm
  have hother : ∀ u : Watch, u ∈ ws → u ∈ v.watches := fun u hu =>
    hw.mem_iff.2 (List.mem_cons_of_mem w hu)
  have hmoved : ∀ u : Watch, u.ticket = w.ticket → v'.watches.Perm (u :: ws) →
      ∀ x ∈ v'.watches, x.ticket = t → x ∈ v.watches := by
    intro u hu hws x hx ht
    rcases List.mem_cons.1 (hws.mem_iff.1 hx) with rfl | hx
    · exact absurd (hu.symm.trans ht) hne
    · exact hother x hx
  cases g with
  | polls p _ hticket _ hpolls hends hws =>
    exact .of_ends hstarted (Vigil.pollsOf_of_cons_ne hpolls (hticket ▸ hne))
      (hmoved (w.polled _ _ _) rfl hws) (fun e he _ => hends ▸ he)
  | waits now info u _ habsorb hpolls hends hws =>
    exact .of_ends hstarted (Vigil.pollsOf_congr hpolls)
      (hmoved u (Watch.absorb_inr habsorb).1 hws) (fun e he _ => hends ▸ he)
  | ends now info fate _ _ hpolls hends hws =>
    refine .of_ends hstarted (Vigil.pollsOf_congr hpolls) (fun u hu _ => hother u (hws ▸ hu)) ?_
    intro e he ht
    rw [hends, List.mem_append, List.mem_singleton] at he
    rcases he with he | rfl
    · exact he
    · exact absurd ht hne

theorem Vigil.keeps_watch (m : Monitor) (hash : Hash) (h : t < v.started) :
    v.Keeps t (m.watch hash v).2 := by
  refine .of_ends (Nat.le_succ _) rfl ?_ (fun _ he _ => he)
  intro u hu ht
  rcases List.mem_append.1 hu with hu | hu
  · exact hu
  · rw [List.mem_singleton.1 hu] at ht
    exact absurd ht.symm (Nat.ne_of_lt h)

theorem Vigil.keeps_collect (v : Vigil) (ticket t : Nat) : v.Keeps t (v.collect ticket).2 := by
  unfold collect
  split
  · refine ⟨Nat.le_refl _, rfl, fun _ hu _ => hu, ?_⟩
    intro e he _
    obtain ⟨e₀, he₀, rfl⟩ := List.mem_map.1 he
    split_ifs
    · exact ⟨e₀.fate, he₀, Or.inl rfl⟩
    · exact ⟨e₀.fate, he₀, Or.inr rfl⟩
  · exact .of_ends (Nat.le_refl _) rfl (fun _ hu _ => hu) (fun _ he _ => he)

theorem Vigil.keeps_abandon (v : Vigil) (tickets : List Nat) (t : Nat) :
    v.Keeps t (v.abandon tickets) := by
  refine .of_ends (Nat.le_refl _) ?_ (fun u hu _ => (List.mem_filter.1 hu).1) (fun _ he _ => he)
  simp only [pollsOf, abandon, List.filter_map, List.map_map]
  have hticket : ((·.ticket == t) ∘ fun p : Poll =>
      if tickets.contains p.ticket then
        { p with events := p.events.filter (·.time < v.settled) } else p) = (·.ticket == t) := by
    funext p
    dsimp only [Function.comp]
    split_ifs <;> rfl
  rw [hticket]
  refine List.map_congr_left fun p _ => ?_
  dsimp only [Function.comp]
  split_ifs <;> rfl

theorem Vigil.keeps_clock (v : Vigil) (now settled : Millis) (t : Nat) :
    v.Keeps t { v with now, settled } :=
  .of_ends (Nat.le_refl _) rfl (fun _ hu _ => hu) (fun _ he _ => he)

namespace Monitor

/-- A move lets the watch of a ticket go on, or leaves what the vigil says of it. -/
theorem Move.keeps_or_goes (h : m.Move v v') (hbegun : t < v.started) :
    v.Keeps t v' ∨ ∃ w ws, w.ticket = t ∧ v.watches.Perm (w :: ws) ∧ m.Goes v w ws v' := by
  cases h with
  | tick htick =>
    cases htick with
    | @step w ws hw =>
      have g := m.step_goes v w ws
      by_cases ht : w.ticket = t
      · exact Or.inr ⟨w, ws, ht, hw, g⟩
      · exact Or.inl (g.keeps hw ht)
    | clock now settled => exact Or.inl (v.keeps_clock now settled t)
  | watch hash => exact Or.inl (Vigil.keeps_watch m hash hbegun)
  | collect ticket => exact Or.inl (v.keeps_collect ticket t)
  | abandon tickets => exact Or.inl (v.keeps_abandon tickets t)

theorem Traces.of_keeps (h : m.Traces t hash start v) (k : v.Keeps t v') :
    m.Traces t hash start v' := by
  have hreadings : m.readings v' t = m.readings v t := congrArg (List.map m.reading) k.polls
  refine ⟨Nat.lt_of_lt_of_le h.begun k.begun, ?_, ?_, ?_⟩
  · rw [k.polls]
    exact h.polls
  · rw [hreadings]
    exact fun w hw ht => h.follows w (k.watches w hw ht) ht
  · rw [hreadings]
    intro e he ht
    obtain ⟨fate, hfate, heq⟩ := k.ends e he ht
    obtain ⟨hhash, hdecides⟩ := h.decides _ hfate ht
    refine ⟨hhash, fun info hinfo => hdecides info ?_⟩
    rcases heq with hnone | heq
    · rw [hnone] at hinfo
      cases hinfo
    · exact heq.symm.trans hinfo

/-- What a vigil knows of a watch it also knows once that watch has gone on. -/
theorem Traces.goes (h : m.Traces w.ticket hash start v) (d : v.Distinct)
    (hw : v.watches.Perm (w :: ws)) (g : m.Goes v w ws v') :
    m.Traces w.ticket hash start v' := by
  -- nobody else has the ticket: what has it now is what this watch became
  obtain ⟨halone, hrunning⟩ := d.alone hw
  obtain ⟨hhash, hfollows⟩ := h.follows w (hw.mem_iff.2 List.mem_cons_self) rfl
  have hbegun : w.ticket < v'.started := g.started ▸ h.begun
  cases g with
  | polls p hphase hticket hphash hpolls hends hws =>
    have hpollsOf := Vigil.pollsOf_of_cons hpolls hticket
    have hreadings : m.readings v' w.ticket = m.reading p :: m.readings v w.ticket :=
      congrArg (List.map m.reading) hpollsOf
    refine ⟨hbegun, ?_, ?_, fun e he ht => absurd ht (hrunning e (hends ▸ he))⟩
    · rw [hpollsOf]
      exact List.forall_mem_cons.2 ⟨hphash.trans hhash, h.polls⟩
    · rw [hreadings]
      intro u hu ht
      rcases List.mem_cons.1 (hws.mem_iff.1 hu) with rfl | hu
      · exact ⟨hhash, hfollows.polled hphase _⟩
      · exact absurd ht (halone u hu)
  | waits now info u hphase habsorb hpolls hends hws =>
    have hpollsOf : v'.pollsOf w.ticket = v.pollsOf w.ticket := Vigil.pollsOf_congr hpolls
    refine ⟨hbegun, hpollsOf ▸ h.polls, ?_, fun e he ht => absurd ht (hrunning e (hends ▸ he))⟩
    rw [readings, hpollsOf]
    intro x hx ht
    rcases List.mem_cons.1 (hws.mem_iff.1 hx) with rfl | hx
    · exact ⟨(Watch.absorb_inr habsorb).2.trans hhash, hfollows.unsettled hphase habsorb⟩
    · exact absurd ht (halone x hx)
  | ends now info fate hphase habsorb hpolls hends hws =>
    have hpollsOf : v'.pollsOf w.ticket = v.pollsOf w.ticket := Vigil.pollsOf_congr hpolls
    refine ⟨hbegun, hpollsOf ▸ h.polls, fun u hu ht => absurd ht (halone u (hws ▸ hu)), ?_⟩
    rw [readings, hpollsOf]
    intro e he ht
    rw [hends, List.mem_append, List.mem_singleton] at he
    rcases he with he | rfl
    · exact absurd ht (hrunning e he)
    · refine ⟨hhash, ?_⟩
      rintro info' rfl
      exact hfollows.ended hphase habsorb

theorem Traces.move (h : m.Traces t hash start v) (d : v.Distinct) (hmove : m.Move v v') :
    m.Traces t hash start v' := by
  rcases hmove.keeps_or_goes h.begun with hkeeps | ⟨w, ws, rfl, hw, g⟩
  · exact h.of_keeps hkeeps
  · exact h.goes d hw g

/-- **Whatever happens, a vigil knows of a watch what its polls read.** -/
theorem Traces.run (h : m.Traces t hash start v) (d : v.Distinct) (hrun : m.Run v v') :
    m.Traces t hash start v' := by
  induction hrun with
  | refl => exact h
  | tail hrun hmove ih => exact ih.move (Run.distinct hrun d) hmove

/-- A watch that begins has not polled. -/
theorem pollsOf_watch (m : Monitor) (hash : Hash) (d : v.Distinct) :
    (m.watch hash v).2.pollsOf (m.watch hash v).1 = [] := by
  change v.pollsOf v.started = []
  rw [Vigil.pollsOf, List.map_eq_nil_iff, List.filter_eq_nil_iff]
  intro p hp heq
  exact Nat.lt_irrefl _ (beq_iff_eq.1 heq ▸ d.polled p hp)

/-- Of the watches under way only the one that has just begun has its ticket. -/
theorem eq_start_of_mem_watch (d : v.Distinct) (hw : w ∈ (m.watch hash v).2.watches)
    (ht : w.ticket = (m.watch hash v).1) : w = .start m.policy v.started hash v.now := by
  rcases List.mem_append.1 hw with hw | hw
  · exact absurd ht (Nat.ne_of_lt (d.begun _ (Vigil.mem_tickets_of_watch hw)))
  · exact List.mem_singleton.1 hw

/-- A watch that begins has read nothing. -/
theorem traces_watch (hp : m.policy.interval ≠ 0) (hash : Hash) (d : v.Distinct) :
    m.Traces (m.watch hash v).1 hash v.now (m.watch hash v).2 := by
  have hfresh := m.pollsOf_watch hash d
  refine ⟨Nat.lt_succ_self _, ?_, ?_, ?_⟩
  · rw [hfresh]
    nofun
  · intro w hw ht
    rw [eq_start_of_mem_watch d hw ht, readings, hfresh]
    exact ⟨rfl, Watch.follows_start hp _ _ _⟩
  · intro e he ht
    exact absurd ht (Nat.ne_of_lt (d.begun _ (Vigil.mem_tickets_of_end he)))

theorem traces_watchAll (hp : m.policy.interval ≠ 0) {hashes : List Hash} (d : v.Distinct)
    (ht : t ∈ (m.watchAll hashes v).1) :
    ∃ hash ∈ hashes, m.Traces t hash v.now (m.watchAll hashes v).2 := by
  induction hashes generalizing v with
  | nil => cases ht
  | cons hash hashes ih =>
    have d' := d.watch m hash
    rcases List.mem_cons.1 ht with rfl | ht
    · exact ⟨hash, List.mem_cons_self, (traces_watch hp hash d).run d' (m.run_watchAll hashes _)⟩
    · obtain ⟨hash', hmem, htraces⟩ := ih d' ht
      exact ⟨hash', List.mem_cons_of_mem hash hmem, htraces⟩

end Monitor

end

end NodeFleet

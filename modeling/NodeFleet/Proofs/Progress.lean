/-
  Time makes every watch go on.

  * `Monitor.Keeps`: what holds of watches whatever happens (`Run.watches`). `Vigil.Scheduled`: no
    watch polls before its deadline; `Vigil.Paced`: none polls without an interval.
  * `Vigil.remaining`: a bound on the steps before a moment, lowered by each of them
    (`Goes.remaining_lt`). So the steps that are taken for a moment are enough to reach it
    (`reached_or_due_drive`, `due_settle`).
  * `Monitor.stage`: how far a watch has come, raised by each of its steps (`Ticks.onward`).
  * `goes_on`: in time every watch ends or comes as far as one likes.
-/
import NodeFleet.Proofs.Vigil
import Mathlib.Algebra.GroupWithZero.Nat

namespace NodeFleet

variable {m : Monitor} {v v' : Vigil} {w : Watch} {ws : List Watch} {t : Nat} {hash : Hash}
  {start horizon : Millis}

theorem earliest?_le {watches : List Watch} (h : earliest? watches = some (w, ws)) :
    ∀ u ∈ ws, w.due ≤ u.due := by
  induction watches generalizing w ws with
  | nil => cases h
  | cons x xs ih =>
    rw [earliest?] at h
    split at h
    · next y rest hy =>
      have hrest := ih hy
      split_ifs at h with hle
      · cases h
        intro u hu
        rcases List.mem_cons.1 ((earliest?_perm hy).mem_iff.1 hu) with rfl | hu
        · exact hle
        · exact Nat.le_trans hle (hrest u hu)
      · cases h
        exact List.forall_mem_cons.2 ⟨Nat.le_of_not_le hle, hrest⟩
    · cases h
      exact List.forall_mem_nil _

/-! ## The schedule is kept -/

/-- A watch does not poll before its deadline. -/
def Watch.Scheduled (w : Watch) : Prop := ∀ time, w.phase = .poll time → w.deadline ≤ time

def Vigil.Scheduled (v : Vigil) : Prop := ∀ w ∈ v.watches, w.Scheduled

/-- Without an interval there is no schedule to keep, and a watch is about to die. -/
def Watch.Paced (p : WatchPolicy) (w : Watch) : Prop :=
  p.interval = 0 → ∃ time, w.phase = .answer time none

def Vigil.Paced (p : WatchPolicy) (v : Vigil) : Prop := ∀ w ∈ v.watches, w.Paced p

theorem Watch.scheduled_start (p : WatchPolicy) (ticket : Nat) (hash : Hash) (now : Millis) :
    (Watch.start p ticket hash now).Scheduled := by
  intro time htime
  dsimp only [start] at htime ⊢
  split_ifs at htime
  · cases htime
    exact Nat.le_refl _

theorem Watch.paced_start (p : WatchPolicy) (ticket : Nat) (hash : Hash) (now : Millis) :
    (Watch.start p ticket hash now).Paced p :=
  fun hp => ⟨now, if_pos hp⟩

theorem Watch.scheduled_of_absorb {p : WatchPolicy} {now : Millis} {info : Option TxInfo}
    {u : Watch} (h : w.absorb p now info = .inr u) : u.Scheduled := by
  obtain ⟨answer, -, -, rfl⟩ := absorb_eq_inr h
  rintro time ⟨⟩
  exact Nat.le_max_left _ _

/-- What is paced polls only if there is an interval. -/
theorem Watch.Paced.interval_ne_zero {p : WatchPolicy} {time : Millis} (h : w.Paced p)
    (hphase : w.phase = .poll time) : p.interval ≠ 0 := by
  intro hp
  obtain ⟨time', hanswer⟩ := h hp
  rw [hphase] at hanswer
  cases hanswer

theorem Watch.Paced.of_absorb {p : WatchPolicy} {now : Millis} {info : Option TxInfo} {u : Watch}
    (h : w.Paced p) (hphase : w.phase = .answer now info) (hu : w.absorb p now info = .inr u) :
    u.Paced p := by
  intro hp
  obtain ⟨time, hanswer⟩ := h hp
  rw [hphase] at hanswer
  cases hanswer
  cases hu

/-- A property of watches that is kept when they poll and when an answer settles nothing. -/
structure Monitor.Keeps (m : Monitor) (P : Watch → Prop) : Prop where
  start : ∀ ticket hash now, P (.start m.policy ticket hash now)
  polled : ∀ w now r, w.phase = .poll now → P w → P (w.polled m.policy now r)
  waits : ∀ w now info u, w.phase = .answer now info → w.absorb m.policy now info = .inr u →
    P w → P u

namespace Monitor

theorem keeps_scheduled (m : Monitor) : m.Keeps Watch.Scheduled where
  start := Watch.scheduled_start _
  polled _ _ _ _ _ := nofun
  waits _ _ _ _ _ habsorb _ := Watch.scheduled_of_absorb habsorb

theorem keeps_paced (m : Monitor) : m.Keeps (Watch.Paced m.policy) where
  start := Watch.paced_start _
  polled _ _ _ hphase h hp := absurd hp (h.interval_ne_zero hphase)
  waits _ _ _ _ hphase habsorb h := h.of_absorb hphase habsorb

section
variable {P : Watch → Prop} (hP : m.Keeps P)
include hP

theorem Goes.watches (g : m.Goes v w ws v') (hw : v.watches.Perm (w :: ws))
    (h : ∀ u ∈ v.watches, P u) : ∀ u ∈ v'.watches, P u := by
  have hone : P w := h w (hw.mem_iff.2 List.mem_cons_self)
  have hothers : ∀ u ∈ ws, P u := fun u hu => h u (hw.mem_iff.2 (List.mem_cons_of_mem w hu))
  cases g with
  | polls p hphase _ _ _ _ hws =>
    exact fun u hu =>
      List.forall_mem_cons.2 ⟨hP.polled _ _ _ hphase hone, hothers⟩ u (hws.mem_iff.1 hu)
  | waits _ _ _ hphase habsorb _ _ hws =>
    exact fun u hu =>
      List.forall_mem_cons.2 ⟨hP.waits _ _ _ _ hphase habsorb hone, hothers⟩ u (hws.mem_iff.1 hu)
  | ends _ _ _ _ _ _ _ hws => exact fun u hu => hothers u (hws ▸ hu)

theorem Move.watches (hmove : m.Move v v') (h : ∀ u ∈ v.watches, P u) : ∀ u ∈ v'.watches, P u := by
  cases hmove with
  | tick htick =>
    cases htick with
    | step hw => exact (m.step_goes v _ _).watches hP hw h
    | clock => exact h
  | watch hash =>
    intro u hu
    rcases List.mem_append.1 hu with hu | hu
    · exact h u hu
    · exact List.mem_singleton.1 hu ▸ hP.start _ _ _
  | collect ticket =>
    have hwatches : (v.collect ticket).2.watches = v.watches := by
      unfold Vigil.collect
      split <;> rfl
    exact fun u hu => h u (hwatches ▸ hu)
  | abandon tickets => exact fun u hu => h u (List.mem_filter.1 hu).1

/-- **Whatever happens, what watches keep holds of them.** -/
theorem Run.watches (hrun : m.Run v v') (h : ∀ u ∈ v.watches, P u) : ∀ u ∈ v'.watches, P u := by
  induction hrun with
  | refl => exact h
  | tail _ hmove ih => exact Move.watches hP hmove ih

end

/-- **Whatever happens, no watch polls before its deadline.** -/
theorem Run.scheduled (hrun : m.Run v v') (h : v.Scheduled) : v'.Scheduled :=
  Run.watches m.keeps_scheduled hrun h

/-- **Whatever happens, no watch polls without an interval.** -/
theorem Run.paced (hrun : m.Run v v') (h : v.Paced m.policy) : v'.Paced m.policy :=
  Run.watches m.keeps_paced hrun h

end Monitor

/-! ## Steps before a moment -/

/-- Whether the last poll is still to be answered, as a number. -/
def Watch.unanswered (w : Watch) : Nat :=
  match w.phase with
  | .poll _ => 0
  | .answer _ _ => 1

theorem Watch.unanswered_le_one (w : Watch) : w.unanswered ≤ 1 := by
  unfold unanswered
  split <;> decide

theorem Watch.unanswered_of_poll {time : Millis} (h : w.phase = .poll time) :
    w.unanswered = 0 := by
  rw [unanswered, h]

theorem Watch.unanswered_of_answer {time : Millis} {info : Option TxInfo}
    (h : w.phase = .answer time info) : w.unanswered = 1 := by
  rw [unanswered, h]

theorem Watch.unanswered_of_absorb {p : WatchPolicy} {now : Millis} {info : Option TxInfo}
    {u : Watch} (h : w.absorb p now info = .inr u) :
    u.unanswered = 0 ∧ u.deadline = w.deadline := by
  obtain ⟨answer, -, -, rfl⟩ := absorb_eq_inr h
  exact ⟨rfl, rfl⟩

/-- How often a watch goes on before a moment, at most: to poll and to be answered for each of the
    deadlines that are left. -/
def Watch.remaining (horizon : Millis) (w : Watch) : Nat :=
  2 * (horizon - w.deadline) + w.unanswered

def Vigil.remaining (horizon : Millis) (v : Vigil) : Nat :=
  (v.watches.map (·.remaining horizon)).sum

theorem Vigil.remaining_of_perm (h : v.watches.Perm (w :: ws)) :
    v.remaining horizon = w.remaining horizon + (ws.map (·.remaining horizon)).sum :=
  (h.map _).sum_nat

/-- A deadline is followed by one that is an interval later, or more. -/
theorem add_interval_le_nextDeadline (interval deadline now : Millis) :
    deadline + interval ≤ nextDeadline interval deadline now := by
  unfold nextDeadline
  split_ifs with hlate
  · exact Nat.add_le_add_right (Nat.le_of_add_right_le (Nat.le_of_lt hlate)) interval
  · exact Nat.le_refl _

theorem deadline_lt_nextDeadline {interval : Millis} (h : interval ≠ 0) (deadline now : Millis) :
    deadline < nextDeadline interval deadline now :=
  Nat.lt_of_lt_of_le (Nat.lt_add_of_pos_right (Nat.pos_of_ne_zero h))
    (add_interval_le_nextDeadline interval deadline now)

/-- A watch that nothing remains for is not due. -/
theorem Watch.Scheduled.le_due (h : w.Scheduled) (hnone : w.remaining horizon = 0) :
    horizon ≤ w.due := by
  unfold remaining at hnone
  cases hphase : w.phase with
  | poll time =>
    have hle := h time hphase
    rw [due, hphase]
    dsimp only
    grind
  | answer time info =>
    rw [w.unanswered_of_answer hphase] at hnone
    omega

namespace Monitor

/-- Each step before a moment leaves fewer of them. -/
theorem Goes.remaining_lt (g : m.Goes v w ws v') (hw : v.watches.Perm (w :: ws))
    (h : v.Scheduled) (hpaced : v.Paced m.policy) (hdue : w.due < horizon) :
    v'.remaining horizon < v.remaining horizon := by
  rw [Vigil.remaining_of_perm hw]
  cases g with
  | polls p hphase _ _ _ _ hws =>
    rw [Vigil.remaining_of_perm hws]
    have hmem : w ∈ v.watches := hw.mem_iff.2 List.mem_cons_self
    have hdeadline := h w hmem p.time hphase
    have hnext :=
      deadline_lt_nextDeadline ((hpaced w hmem).interval_ne_zero hphase) w.deadline p.time
    have hpolled : (w.polled m.policy p.time (m.reading p)).remaining horizon =
        2 * (horizon - nextDeadline m.policy.interval w.deadline p.time) + 1 := rfl
    rw [Watch.due, hphase] at hdue
    dsimp only at hdue
    rw [hpolled, Watch.remaining, w.unanswered_of_poll hphase]
    grind
  | waits now info u hphase habsorb _ _ hws =>
    obtain ⟨hanswered, hdeadline⟩ := Watch.unanswered_of_absorb habsorb
    rw [Vigil.remaining_of_perm hws, Watch.remaining, Watch.remaining, hanswered, hdeadline,
      w.unanswered_of_answer hphase]
    omega
  | ends now info fate hphase _ _ _ hws =>
    rw [Vigil.remaining, hws, Watch.remaining, w.unanswered_of_answer hphase]
    omega

/-- With enough steps the goal is reached, or nothing is left that is due before a moment. -/
theorem reached_or_due_driveFor {goal : Vigil → Bool} {n : Nat} (h : v.Scheduled)
    (hpaced : v.Paced m.policy) (hn : v.remaining horizon ≤ n) :
    goal (m.driveFor goal horizon n v) = true ∨
      ∀ w ∈ (m.driveFor goal horizon n v).watches, horizon ≤ w.due := by
  induction n generalizing v with
  | zero =>
    refine Or.inr fun w hw => ?_
    have hnone := List.sum_eq_zero_iff_forall_eq_nat.1 (Nat.le_zero.1 hn) _ (List.mem_map_of_mem hw)
    exact (h w hw).le_due hnone
  | succ n ih =>
    rw [driveFor]
    split_ifs with hgoal
    · exact Or.inl hgoal
    · split
      · next hnone =>
        rw [earliest?_eq_none hnone]
        exact Or.inr (List.forall_mem_nil _)
      · next w ws hearliest =>
        have hw := earliest?_perm hearliest
        have g := m.step_goes v w ws
        split_ifs with hdue
        · have hlt := g.remaining_lt hw h hpaced hdue
          exact ih (g.watches m.keeps_scheduled hw h) (g.watches m.keeps_paced hw hpaced) (by omega)
        · refine Or.inr fun u hu => ?_
          rcases List.mem_cons.1 (hw.mem_iff.1 hu) with rfl | hu
          · exact Nat.le_of_not_lt hdue
          · exact Nat.le_trans (Nat.le_of_not_lt hdue) (earliest?_le hearliest u hu)

theorem remaining_le_stepsTo (horizon : Millis) (v : Vigil) :
    v.remaining horizon ≤ stepsTo horizon v := by
  have hfold : ∀ (watches : List Watch) (n : Nat), n + (watches.map (·.remaining horizon)).sum ≤
      watches.foldl (fun n w => n + 2 * (horizon - w.deadline) + 1) n := by
    intro watches
    induction watches with
    | nil => exact fun n => Nat.le_refl n
    | cons w ws ih =>
      intro n
      have hone := w.unanswered_le_one
      have hrest := ih (n + 2 * (horizon - w.deadline) + 1)
      rw [List.map_cons, List.sum_cons, List.foldl_cons, Watch.remaining]
      omega
  simpa [Vigil.remaining, stepsTo] using hfold v.watches 0

theorem reached_or_due_drive (goal : Vigil → Bool) (h : v.Scheduled) (hpaced : v.Paced m.policy)
    (horizon : Millis) : goal (m.drive goal horizon v) = true ∨
      ∀ w ∈ (m.drive goal horizon v).watches, horizon ≤ w.due :=
  reached_or_due_driveFor h hpaced (remaining_le_stepsTo horizon v)

/-- **All that is due before a moment happens before it.** -/
theorem due_settle (hp : m.policy.interval ≠ 0) (h : v.Scheduled) (horizon : Millis) :
    ∀ w ∈ (m.settle horizon v).watches, horizon ≤ w.due :=
  (reached_or_due_drive (fun _ => false) h (fun _ _ hzero => absurd hzero hp) horizon).resolve_left
    Bool.false_ne_true

end Monitor

/-! ## Watches go on -/

namespace Monitor

/-- How often a watch went on: once for each poll and once for each answer. -/
def stage (v : Vigil) (w : Watch) : Nat := 2 * (v.pollsOf w.ticket).length - w.unanswered

/-- A watch that was under way has ended, is as it was, or is under way with more behind it. -/
inductive Onward (v : Vigil) (w : Watch) (v' : Vigil) : Prop where
  | ended (e : WatchEnd) (mem : e ∈ v'.ends) (ticket : e.ticket = w.ticket)
  | same (mem : w ∈ v'.watches) (polls : v'.pollsOf w.ticket = v.pollsOf w.ticket)
  | further (u : Watch) (mem : u ∈ v'.watches) (ticket : u.ticket = w.ticket)
      (stage : stage v w < stage v' u)

/-- A watch that waits for an answer has polled, and gets the answer when that read is over. -/
theorem Traces.pollsOf_eq_cons (h : m.Traces w.ticket hash start v) (hw : w ∈ v.watches)
    {now : Millis} {info : Option TxInfo} (hphase : w.phase = .answer now info) :
    ∃ p earlier, v.pollsOf w.ticket = p :: earlier ∧ (m.reading p).time = now := by
  obtain ⟨r, rs, heq, -, -, -, -, htime⟩ := (h.follows w hw rfl).2.absorb hphase
  obtain ⟨p, earlier, hpolls, rfl, -⟩ := List.map_eq_cons_iff.1 heq
  exact ⟨p, earlier, hpolls, htime⟩

/-- When one watch goes on, it comes further or ends, and every other one is as it was. -/
theorem Goes.onward (g : m.Goes v w ws v') (hw : v.watches.Perm (w :: ws)) (d : v.Distinct)
    {u : Watch} (hu : u ∈ v.watches) (h : m.Traces u.ticket hash start v) : Onward v u v' := by
  rcases List.mem_cons.1 (hw.mem_iff.1 hu) with rfl | hrest
  · cases g with
    | polls p hphase hticket _ hpolls _ hws =>
      refine .further _ (hws.mem_iff.2 List.mem_cons_self) rfl ?_
      have hpolled : (u.polled m.policy p.time (m.reading p)).unanswered = 1 := rfl
      have hticket' : (u.polled m.policy p.time (m.reading p)).ticket = u.ticket := rfl
      rw [stage, stage, hpolled, hticket', u.unanswered_of_poll hphase,
        Vigil.pollsOf_of_cons hpolls hticket, List.length_cons]
      omega
    | waits now info x hphase habsorb hpolls _ hws =>
      have hticket := (Watch.absorb_inr habsorb).1
      refine .further x (hws.mem_iff.2 List.mem_cons_self) hticket ?_
      obtain ⟨p, earlier, hpollsOf, -⟩ := h.pollsOf_eq_cons hu hphase
      rw [stage, stage, hticket, (Watch.unanswered_of_absorb habsorb).1,
        u.unanswered_of_answer hphase, Vigil.pollsOf_congr hpolls, hpollsOf, List.length_cons]
      omega
    | ends now info fate _ _ _ hends _ =>
      exact .ended _ (hends ▸ List.mem_append_right _ List.mem_cons_self) rfl
  · have hne : w.ticket ≠ u.ticket := fun heq => (d.alone hw).1 u hrest heq.symm
    refine .same ?_ (g.keeps hw hne).polls
    cases g with
    | polls _ _ _ _ _ _ hws => exact hws.mem_iff.2 (List.mem_cons_of_mem _ hrest)
    | waits _ _ _ _ _ _ _ hws => exact hws.mem_iff.2 (List.mem_cons_of_mem _ hrest)
    | ends _ _ _ _ _ _ _ hws => exact hws ▸ hrest

theorem Tick.onward (htick : m.Tick v v') (d : v.Distinct) (hw : w ∈ v.watches)
    (h : m.Traces w.ticket hash start v) : Onward v w v' := by
  cases htick with
  | step hperm => exact (m.step_goes v _ _).onward hperm d hw h
  | clock => exact .same hw rfl

/-- **No watch is forgotten or falls back**, however many others go on. -/
theorem Ticks.onward (hticks : m.Ticks v v') (d : v.Distinct) (hw : w ∈ v.watches)
    (h : m.Traces w.ticket hash start v) : Onward v w v' := by
  induction hticks with
  | refl => exact .same hw rfl
  | tail hticks htick ih =>
    have hrun := Ticks.run hticks
    have d' := hrun.distinct d
    have h' := h.run d hrun
    cases ih with
    | ended e he ht => exact .ended e ((Ticks.keeps_ends (.single htick)).subset he) ht
    | same hmem hpolls =>
      cases htick.onward d' hmem h' with
      | ended e he ht => exact .ended e he ht
      | same hmem' hpolls' => exact .same hmem' (hpolls'.trans hpolls)
      | further u hu ht hstage =>
        rw [stage, hpolls] at hstage
        exact .further u hu ht hstage
    | further u hu ht hstage =>
      cases htick.onward d' hu (ht ▸ h') with
      | ended e he ht' => exact .ended e he (ht'.trans ht)
      | same hmem' hpolls' =>
        refine .further u hmem' ht (Nat.lt_of_lt_of_eq hstage ?_)
        rw [stage, stage, hpolls']
      | further x hx ht' hstage' =>
        exact .further x hx (ht'.trans ht) (Nat.lt_trans hstage hstage')

/-! ### Time -/

/-- Lets time pass in portions. -/
def advanceAll (m : Monitor) (ds : List Millis) (v : Vigil) : Vigil :=
  ds.foldl (fun v d => m.advance d v) v

theorem ticks_advanceAll (m : Monitor) (ds : List Millis) (v : Vigil) :
    m.Ticks v (m.advanceAll ds v) := by
  induction ds generalizing v with
  | nil => exact .refl
  | cons d ds ih => exact (m.ticks_advance d v).trans (ih _)

/-- After the moment when a watch was due, it has ended or come further. -/
theorem advance_onward (hp : m.policy.interval ≠ 0) (d : v.Distinct) (hs : v.Scheduled)
    (hw : w ∈ v.watches) (h : m.Traces w.ticket hash start v) :
    let v' := m.advance (w.due + 1) v
    (∃ e ∈ v'.ends, e.ticket = w.ticket) ∨
      ∃ u ∈ v'.watches, u.ticket = w.ticket ∧ stage v w < stage v' u := by
  cases Ticks.onward (m.ticks_advance (w.due + 1) v) d hw h with
  | ended e he ht => exact Or.inl ⟨e, he, ht⟩
  | further u hu ht hstage => exact Or.inr ⟨u, hu, ht, hstage⟩
  | same hmem =>
    have hdue : v.now + (w.due + 1) ≤ w.due := due_settle hp hs _ w hmem
    exact absurd (Nat.le_trans (Nat.le_add_left _ _) hdue) (Nat.not_succ_le_self _)

/-- **In time every watch ends or comes as far as one likes.** -/
theorem goes_on (hp : m.policy.interval ≠ 0) (d : v.Distinct) (hs : v.Scheduled)
    (hw : w ∈ v.watches) (h : m.Traces w.ticket hash start v) (n : Nat) :
    ∃ ds, (∃ e ∈ (m.advanceAll ds v).ends, e.ticket = w.ticket) ∨
      ∃ u ∈ (m.advanceAll ds v).watches, u.ticket = w.ticket ∧ n ≤ stage (m.advanceAll ds v) u := by
  induction n with
  | zero => exact ⟨[], Or.inr ⟨w, hw, rfl, Nat.zero_le _⟩⟩
  | succ n ih =>
    obtain ⟨ds, hended | ⟨u, hu, ht, hstage⟩⟩ := ih
    · exact ⟨ds, Or.inl hended⟩
    · have hrun := Ticks.run (m.ticks_advanceAll ds v)
      have hnext := advance_onward hp (hrun.distinct d) (hrun.scheduled hs) hu (ht ▸ h.run d hrun)
      have hsnoc : m.advanceAll (ds ++ [u.due + 1]) v =
          m.advance (u.due + 1) (m.advanceAll ds v) := by
        rw [advanceAll, List.foldl_append]
        rfl
      refine ⟨ds ++ [u.due + 1], ?_⟩
      rw [hsnoc, ← ht]
      exact hnext.imp_right fun ⟨x, hx, ht', hstage'⟩ =>
        ⟨x, hx, ht', Nat.succ_le_of_lt (Nat.lt_of_le_of_lt hstage hstage')⟩

end Monitor

end NodeFleet

/-
  When a watch polls.

  * `Monitor.nextPollAfter`: when the next poll begins after others; `Monitor.InTime`: polls that
    began so.
  * `Monitor.OnSchedule`: what that comes to. Polls do not overlap, none begins early, and none
    late as long as reads take no longer than an interval (`InTime.onSchedule`).
  * `Monitor.Course`: what a vigil knows of the times of a watch, kept by each move
    (`Course.move`) and so by each run (`Course.run`).
  * `Monitor.Vain`: polls that find nothing, at once. They settle nothing until the time is over
    (`length_of_undecided`), and then the next one does (`length_of_decides`, `wait_of_vain`).
  * `polls_on_schedule`: whatever else happens, a watch keeps to its schedule.
  Lists of polls begin with the last one, but for those in `OnSchedule`.
-/
import NodeFleet.Proofs.Polling
import NodeFleet.Proofs.Together

namespace NodeFleet

/-- A poll that is not late leaves the schedule as it is. -/
theorem nextDeadline_of_le {interval deadline now : Millis} (h : now ≤ deadline) :
    nextDeadline interval deadline now = deadline + interval :=
  if_neg (Nat.not_lt.2 (Nat.le_add_right_of_le h))

theorem Watch.phase_of_absorb {p : WatchPolicy} {w u : Watch} {now : Millis}
    {info : Option TxInfo} (h : w.absorb p now info = .inr u) :
    u.phase = .poll (max w.deadline now) := by
  obtain ⟨answer, -, -, rfl⟩ := absorb_eq_inr h
  rfl

namespace Monitor

variable {m : Monitor} {v v' : Vigil} {w : Watch} {ws : List Watch} {t : Nat} {hash : Hash}
  {start : Millis} {p : Poll} {polls earlier : List Poll}

/-! ## The schedule -/

/-- The deadline that polls leave behind, if the watch began at a moment. -/
def deadlineAfter (m : Monitor) (start : Millis) : List Poll → Millis
  | [] => start + m.policy.interval
  | p :: earlier => nextDeadline m.policy.interval (m.deadlineAfter start earlier) p.time

/-- When the next poll begins: at its deadline, or when the last read is over if that is later. -/
def nextPollAfter (m : Monitor) (start : Millis) : List Poll → Millis
  | [] => m.deadlineAfter start []
  | p :: earlier => max (m.deadlineAfter start (p :: earlier)) (m.reading p).time

/-- Polls each of which began when it was due after those before it. -/
def InTime (m : Monitor) (start : Millis) : List Poll → Prop
  | [] => True
  | p :: earlier => p.time = m.nextPollAfter start earlier ∧ m.InTime start earlier

/-- Polls whose reads take no longer than an interval. -/
def Prompt (m : Monitor) (polls : List Poll) : Prop :=
  ∀ p ∈ polls, (m.reading p).time ≤ p.time + m.policy.interval

/-- Polls of a watch that began at a moment, the first one first, as the schedule has them. -/
structure OnSchedule (m : Monitor) (start : Millis) (polls : List Poll) : Prop where
  /-- No poll begins before the reads of all earlier ones are over. -/
  inTurn : polls.Pairwise fun p q => (m.reading p).time ≤ q.time
  /-- None begins before its multiple of the interval. -/
  notEarly : ∀ k p, polls[k]? = some p → start + (k + 1) * m.policy.interval ≤ p.time
  /-- A poll begins just then if none of the reads before it took longer than an interval. -/
  onTime : ∀ k p, polls[k]? = some p → m.Prompt (polls.take k) →
    p.time = start + (k + 1) * m.policy.interval

theorem le_deadlineAfter (m : Monitor) (start : Millis) (polls : List Poll) :
    start + (polls.length + 1) * m.policy.interval ≤ m.deadlineAfter start polls := by
  induction polls with
  | nil => simp [deadlineAfter]
  | cons p earlier ih =>
    rw [deadlineAfter, List.length_cons, Nat.succ_mul, ← Nat.add_assoc]
    exact Nat.le_trans (Nat.add_le_add_right ih _) (add_interval_le_nextDeadline _ _ _)

theorem deadlineAfter_le_nextPollAfter (m : Monitor) (start : Millis) (polls : List Poll) :
    m.deadlineAfter start polls ≤ m.nextPollAfter start polls := by
  cases polls with
  | nil => exact Nat.le_refl _
  | cons p earlier => exact Nat.le_max_left _ _

theorem InTime.of_suffix (h : m.InTime start polls) (hsuffix : earlier <:+ polls) :
    m.InTime start earlier := by
  induction polls with
  | nil =>
    rw [List.suffix_nil.1 hsuffix]
    trivial
  | cons p polls ih =>
    rcases List.suffix_cons_iff.1 hsuffix with rfl | hsuffix
    · exact h
    · exact ih h.2 hsuffix

/-- Every read is over when the next poll begins. -/
theorem InTime.over_le (h : m.InTime start polls)
    (hforward : ∀ p ∈ polls, p.time ≤ (m.reading p).time) :
    ∀ p ∈ polls, (m.reading p).time ≤ m.nextPollAfter start polls := by
  induction polls with
  | nil => exact List.forall_mem_nil _
  | cons q earlier ih =>
    obtain ⟨hq, hearlier⟩ := List.forall_mem_cons.1 hforward
    refine List.forall_mem_cons.2 ⟨Nat.le_max_right _ _, fun p hp => ?_⟩
    calc (m.reading p).time
      _ ≤ m.nextPollAfter start earlier := ih h.2 hearlier p hp
      _ = q.time := h.1.symm
      _ ≤ (m.reading q).time := hq
      _ ≤ m.nextPollAfter start (q :: earlier) := Nat.le_max_right _ _

/-- Polls follow one another. -/
theorem InTime.pairwise (h : m.InTime start polls)
    (hforward : ∀ p ∈ polls, p.time ≤ (m.reading p).time) :
    polls.Pairwise fun q p => (m.reading p).time ≤ q.time := by
  induction polls with
  | nil => exact .nil
  | cons q earlier ih =>
    have hearlier := (List.forall_mem_cons.1 hforward).2
    exact .cons (h.1 ▸ h.2.over_le hearlier) (ih h.2 hearlier)

/-- Prompt reads leave the schedule where it was. -/
theorem InTime.next_of_prompt (h : m.InTime start polls) (hprompt : m.Prompt polls) :
    m.deadlineAfter start polls = start + (polls.length + 1) * m.policy.interval ∧
      m.nextPollAfter start polls = start + (polls.length + 1) * m.policy.interval := by
  induction polls with
  | nil => simp [nextPollAfter, deadlineAfter]
  | cons p earlier ih =>
    obtain ⟨hp, hearlier⟩ := List.forall_mem_cons.1 hprompt
    obtain ⟨hdeadline, hnext⟩ := ih h.2 hearlier
    have htime : p.time = start + (earlier.length + 1) * m.policy.interval := h.1.trans hnext
    have hdue : start + ((p :: earlier).length + 1) * m.policy.interval =
        p.time + m.policy.interval := by
      rw [htime, List.length_cons, Nat.succ_mul (earlier.length + 1), ← Nat.add_assoc]
    have hmoved : m.deadlineAfter start (p :: earlier) = p.time + m.policy.interval := by
      rw [deadlineAfter, hdeadline, ← htime, nextDeadline_of_le (Nat.le_refl _)]
    rw [nextPollAfter, hmoved, hdue]
    exact ⟨rfl, Nat.max_eq_left hp⟩

theorem InTime.time_of_prompt (h : m.InTime start (p :: earlier)) (hprompt : m.Prompt earlier) :
    p.time = start + (earlier.length + 1) * m.policy.interval :=
  h.1.trans (h.2.next_of_prompt hprompt).2

/-- The poll at a place, and those before it. -/
theorem suffix_of_getElem?_reverse {k : Nat} (h : polls.reverse[k]? = some p) :
    p :: (polls.reverse.take k).reverse <:+ polls ∧ (polls.reverse.take k).length = k := by
  constructor
  · have hprefix : polls.reverse.take k ++ [p] <+: polls.reverse := by
      rw [← Option.toList_some, ← h, ← List.take_add_one]
      exact List.take_prefix _ _
    simpa using List.reverse_suffix.2 hprefix
  · obtain ⟨hk, -⟩ := List.getElem?_eq_some_iff.1 h
    exact List.length_take_of_le (Nat.le_of_lt hk)

/-- **Polls that begin when they are due are on schedule.** -/
theorem InTime.onSchedule (h : m.InTime start polls)
    (hforward : ∀ p ∈ polls, p.time ≤ (m.reading p).time) : m.OnSchedule start polls.reverse where
  inTurn := List.pairwise_reverse.2 (h.pairwise hforward)
  notEarly k p hp := by
    obtain ⟨hsuffix, hlength⟩ := suffix_of_getElem?_reverse hp
    have hdue := m.le_deadlineAfter start (polls.reverse.take k).reverse
    rw [List.length_reverse, hlength] at hdue
    rw [(h.of_suffix hsuffix).1]
    exact Nat.le_trans hdue (m.deadlineAfter_le_nextPollAfter start _)
  onTime k p hp hprompt := by
    obtain ⟨hsuffix, hlength⟩ := suffix_of_getElem?_reverse hp
    have htime := (h.of_suffix hsuffix).time_of_prompt fun q hq => hprompt q (List.mem_reverse.1 hq)
    rwa [List.length_reverse, hlength] at htime

/-! ## The course of a watch -/

/-- What a vigil knows of the course of a watch that began at a moment: when its polls began and
    when the next one will, and that what they read ended it, if it has ended. -/
structure Course (m : Monitor) (ticket : Nat) (start : Millis) (v : Vigil) : Prop where
  polls : m.InTime start (v.pollsOf ticket)
  deadline : ∀ w ∈ v.watches, w.ticket = ticket →
    w.deadline = m.deadlineAfter start (v.pollsOf ticket)
  next : ∀ w ∈ v.watches, w.ticket = ticket → ∀ time, w.phase = .poll time →
    time = m.nextPollAfter start (v.pollsOf ticket)
  /-- Other than the fate, this is not taken away. -/
  decides : ∀ e ∈ v.ends, e.ticket = ticket →
    ∃ fate, m.policy.Decides start (m.readings v ticket) fate

theorem Course.of_keeps (h : m.Course t start v) (k : v.Keeps t v') : m.Course t start v' := by
  have hreadings : m.readings v' t = m.readings v t := congrArg (List.map m.reading) k.polls
  refine ⟨?_, ?_, ?_, ?_⟩
  · rw [k.polls]
    exact h.polls
  · rw [k.polls]
    exact fun w hw ht => h.deadline w (k.watches w hw ht) ht
  · rw [k.polls]
    exact fun w hw ht => h.next w (k.watches w hw ht) ht
  · rw [hreadings]
    intro e he ht
    obtain ⟨fate, hfate, -⟩ := k.ends e he ht
    exact h.decides _ hfate ht

/-- The schedule is kept when the watch goes on. -/
theorem Course.goes (h : m.Course w.ticket start v) (htraces : m.Traces w.ticket hash start v)
    (d : v.Distinct) (hw : v.watches.Perm (w :: ws)) (g : m.Goes v w ws v') :
    m.Course w.ticket start v' := by
  obtain ⟨halone, hrunning⟩ := d.alone hw
  have hmem : w ∈ v.watches := hw.mem_iff.2 List.mem_cons_self
  have hdeadline := h.deadline w hmem rfl
  -- what has the ticket now is what the watch became
  have hmoved {u x : Watch} (hws : v'.watches.Perm (u :: ws)) (hx : x ∈ v'.watches)
      (ht : x.ticket = w.ticket) : x = u :=
    (List.mem_cons.1 (hws.mem_iff.1 hx)).resolve_right fun hx => halone x hx ht
  cases g with
  | polls p hphase hticket _ hpolls hends hws =>
    have hpollsOf := Vigil.pollsOf_of_cons hpolls hticket
    have hturn := h.next w hmem rfl p.time hphase
    refine ⟨?_, fun x hx ht => ?_, fun x hx ht => ?_,
      fun e he ht => absurd ht (hrunning e (hends ▸ he))⟩
    · rw [hpollsOf]
      exact ⟨hturn, h.polls⟩
    · rw [hmoved hws hx ht, hpollsOf]
      exact congrArg (nextDeadline m.policy.interval · p.time) hdeadline
    · rw [hmoved hws hx ht]
      nofun
  | waits now info u hphase habsorb hpolls hends hws =>
    have hpollsOf : v'.pollsOf w.ticket = v.pollsOf w.ticket := Vigil.pollsOf_congr hpolls
    refine ⟨?_, fun x hx ht => ?_, fun x hx ht time htime => ?_,
      fun e he ht => absurd ht (hrunning e (hends ▸ he))⟩
    · rw [hpollsOf]
      exact h.polls
    · rw [hmoved hws hx ht, hpollsOf, ← hdeadline]
      exact (Watch.unanswered_of_absorb habsorb).2
    · obtain ⟨p, earlier, heq, hover⟩ := htraces.pollsOf_eq_cons hmem hphase
      rw [hmoved hws hx ht, Watch.phase_of_absorb habsorb] at htime
      cases htime
      rw [hpollsOf, heq, nextPollAfter, hover, ← heq, hdeadline]
  | ends now info fate hphase habsorb hpolls hends hws =>
    have hpollsOf : v'.pollsOf w.ticket = v.pollsOf w.ticket := Vigil.pollsOf_congr hpolls
    refine ⟨?_, fun x hx ht => absurd ht (halone x (hws ▸ hx)),
      fun x hx ht => absurd ht (halone x (hws ▸ hx)), fun e _ _ => ⟨fate, ?_⟩⟩
    · rw [hpollsOf]
      exact h.polls
    · rw [readings, hpollsOf]
      exact (htraces.follows w hmem rfl).2.ended hphase habsorb

theorem Course.move (h : m.Course t start v) (htraces : m.Traces t hash start v) (d : v.Distinct)
    (hmove : m.Move v v') : m.Course t start v' := by
  rcases hmove.keeps_or_goes htraces.begun with hkeeps | ⟨w, ws, rfl, hw, g⟩
  · exact h.of_keeps hkeeps
  · exact h.goes htraces d hw g

/-- **Whatever happens, a watch keeps its course.** -/
theorem Course.run (h : m.Course t start v) (htraces : m.Traces t hash start v) (d : v.Distinct)
    (hrun : m.Run v v') : m.Course t start v' := by
  induction hrun with
  | refl => exact h
  | tail hrun hmove ih => exact ih.move (htraces.run d hrun) (Run.distinct hrun d) hmove

/-- A watch that begins polls after an interval. -/
theorem course_watch (hp : m.policy.interval ≠ 0) (hash : Hash) (d : v.Distinct) :
    m.Course (m.watch hash v).1 v.now (m.watch hash v).2 := by
  have hfresh := m.pollsOf_watch hash d
  refine ⟨?_, fun w hw ht => ?_, fun w hw ht time htime => ?_,
    fun e he ht => absurd ht (Nat.ne_of_lt (d.begun _ (Vigil.mem_tickets_of_end he)))⟩
  · rw [hfresh]
    trivial
  · rw [eq_start_of_mem_watch d hw ht, hfresh]
    rfl
  · have hphase : (Watch.start m.policy v.started hash v.now).phase =
        .poll (v.now + m.policy.interval) := if_neg hp
    rw [eq_start_of_mem_watch d hw ht, hphase] at htime
    cases htime
    rw [hfresh]
    rfl

/-- As long as reads are prompt, a watch goes on no later than when its next poll is due. -/
theorem Course.due_le (hcourse : m.Course t start v) (htraces : m.Traces t hash start v)
    (hw : w ∈ v.watches) (ht : w.ticket = t) (hprompt : m.Prompt (v.pollsOf t)) :
    w.due ≤ start + ((v.pollsOf t).length + 1) * m.policy.interval := by
  subst ht
  cases hphase : w.phase with
  | poll time =>
    rw [Watch.due, hphase, ← (hcourse.polls.next_of_prompt hprompt).2]
    exact Nat.le_of_eq (hcourse.next w hw rfl time hphase)
  | answer time info =>
    obtain ⟨p, earlier, hpolls, rfl⟩ := htraces.pollsOf_eq_cons hw hphase
    have hintime := hcourse.polls
    rw [hpolls] at hprompt hintime ⊢
    obtain ⟨hp, hearlier⟩ := List.forall_mem_cons.1 hprompt
    rw [Watch.due, hphase, List.length_cons, Nat.succ_mul (earlier.length + 1), ← Nat.add_assoc,
      ← hintime.time_of_prompt hearlier]
    exact hp

/-- **No poll is left out.** Until a moment that has passed, a watch under way whose reads are
    prompt polled at every multiple of the interval. -/
theorem Course.le_of_advance (hp : m.policy.interval ≠ 0) (hcourse : m.Course t start v)
    (htraces : m.Traces t hash start v) (d : v.Distinct) (hs : v.Scheduled) (passed : Millis)
    (hw : w ∈ (m.advance passed v).watches) (ht : w.ticket = t)
    (hprompt : m.Prompt ((m.advance passed v).pollsOf t)) :
    v.now + passed ≤
      start + (((m.advance passed v).pollsOf t).length + 1) * m.policy.interval := by
  have hrun := Ticks.run (m.ticks_advance passed v)
  have hdue : v.now + passed ≤ w.due := due_settle hp hs _ w hw
  exact Nat.le_trans hdue ((hcourse.run htraces d hrun).due_le (htraces.run d hrun) hw ht hprompt)

/-! ## Hashes that nobody knows -/

/-- Polls that find nothing, at once. -/
def Vain (m : Monitor) (polls : List Poll) : Prop :=
  ∀ p ∈ polls, (m.reading p).time = p.time ∧ (m.reading p).info = some .notFound

theorem Vain.prompt (h : m.Vain polls) : m.Prompt polls :=
  fun p hp => (h p hp).1 ▸ Nat.le_add_right _ _

theorem Traces.vain (h : m.Traces t hash start v)
    (hvain : ∀ n now, (m.reader n now hash).time = now ∧
      (m.reader n now hash).info = some .notFound) : m.Vain (v.pollsOf t) := by
  intro p hp
  rw [reading, h.polls p hp]
  exact hvain _ _

/-- A poll that finds nothing settles that the transaction is lost, if it comes too late. -/
theorem settles?_of_vain (h : m.InTime start (p :: earlier)) (hvain : m.Vain (p :: earlier)) :
    m.policy.settles? start (earlier.map m.reading) (m.reading p) =
      if m.policy.lostAfter < (earlier.length + 1) * m.policy.interval then some .lost
      else none := by
  obtain ⟨⟨hover, hinfo⟩, hearlier⟩ := List.forall_mem_cons.1 hvain
  have hunseen : (earlier.map m.reading).any (·.foundPending) = false := by
    rw [List.any_map, List.any_eq_false]
    intro q hq
    simp [StatusReading.foundPending, (hearlier q hq).2, TxInfo.status]
  rw [WatchPolicy.settles?, hinfo, hunseen, hover, h.time_of_prompt (Vain.prompt hearlier),
    Nat.add_sub_cancel_left]
  simp [WatchPolicy.verdict?, TxInfo.status]

/-- Polls that find nothing settle nothing only as long as the time is not over. -/
theorem length_of_undecided (h : m.InTime start polls) (hvain : m.Vain polls)
    (hun : m.policy.Undecided start (polls.map m.reading)) :
    polls.length * m.policy.interval ≤ m.policy.lostAfter := by
  cases polls with
  | nil => simp
  | cons p earlier =>
    have hnone := hun.2.1
    rw [settles?_of_vain h hvain] at hnone
    split_ifs at hnone with hlate
    exact Nat.le_of_not_lt hlate

/-- The first of them after that settles that the transaction is lost. -/
theorem length_of_decides (h : m.InTime start polls) (hvain : m.Vain polls) {fate : Option TxInfo}
    (hdecides : m.policy.Decides start (polls.map m.reading) fate) :
    fate = some .lost ∧ polls.length = m.policy.lostAfter / m.policy.interval + 1 := by
  obtain ⟨r, rs, heq, hun, hsettles, hdied⟩ := hdecides
  obtain ⟨p, earlier, rfl, rfl, rfl⟩ := List.map_eq_cons_iff.1 heq
  obtain ⟨⟨-, hinfo⟩, hearlier⟩ := List.forall_mem_cons.1 hvain
  rw [settles?_of_vain h hvain] at hsettles
  split_ifs at hsettles with hlate
  · have hearly := length_of_undecided h.2 hearlier hun
    refine ⟨hsettles.symm, congrArg Nat.succ (Nat.div_eq_of_lt_le hearly hlate).symm⟩
  · rw [hdied hsettles.symm] at hinfo
    cases hinfo

section
variable (hcourse : m.Course t start v) (htraces : m.Traces t hash start v)
  (hvain : m.Vain (v.pollsOf t)) (hw : w ∈ v.watches) (ht : w.ticket = t)
include hcourse htraces hvain hw ht

/-- A watch under way has not got the answer that comes too late. -/
theorem Course.length_answers (hp : m.policy.interval ≠ 0) :
    (m.answers v w).length ≤ m.policy.lostAfter / m.policy.interval := by
  subst ht
  have hun := (htraces.follows w hw rfl).2.answered.1
  rw [readings, ← List.map_drop] at hun
  have hlength := length_of_undecided (hcourse.polls.of_suffix (List.drop_suffix _ _))
    (fun p hp => hvain p (List.mem_of_mem_drop hp)) hun
  rw [answers, List.length_reverse, readings, ← List.map_drop, List.length_map]
  exact (Nat.le_div_iff_mul_le (Nat.pos_of_ne_zero hp)).2 hlength

/-- It goes on when the poll after the last answer is due. -/
theorem Course.due_eq :
    w.due = start + ((m.answers v w).length + 1) * m.policy.interval := by
  subst ht
  rw [answers, List.length_reverse, List.length_drop, readings, List.length_map]
  cases hphase : w.phase with
  | poll time =>
    rw [w.unanswered_of_poll hphase, Nat.sub_zero,
      ← (hcourse.polls.next_of_prompt (Vain.prompt hvain)).2, Watch.due, hphase]
    exact hcourse.next w hw rfl time hphase
  | answer time info =>
    obtain ⟨p, earlier, hpolls, rfl⟩ := htraces.pollsOf_eq_cons hw hphase
    have hintime := hcourse.polls
    rw [hpolls] at hvain hintime ⊢
    obtain ⟨⟨hover, -⟩, hearlier⟩ := List.forall_mem_cons.1 hvain
    rw [w.unanswered_of_answer hphase, List.length_cons, Nat.add_sub_cancel,
      ← hintime.time_of_prompt (Vain.prompt hearlier), Watch.due, hphase]
    exact hover

end

/-! ## Waiting -/

/-- What happens until a moment happens before it. -/
theorem time_lt_of_drive {horizon : Millis} (goal : Vigil → Bool)
    (h : ∀ p ∈ v.pollsOf t, p.time < horizon) :
    ∀ p ∈ (m.drive goal horizon v).pollsOf t, p.time < horizon := by
  refine driveFor_induction (P := fun v => ∀ p ∈ v.pollsOf t, p.time < horizon) ?_ goal _ h
  intro v w ws hw hdue h
  cases m.step_goes v w ws with
  | polls p hphase _ _ hpolls =>
    rw [Watch.due, hphase] at hdue
    by_cases ht : p.ticket = t
    · rw [Vigil.pollsOf_of_cons hpolls ht]
      exact List.forall_mem_cons.2 ⟨hdue, h⟩
    · rw [Vigil.pollsOf_of_cons_ne hpolls ht]
      exact h
  | waits _ _ _ _ _ hpolls =>
    rw [Vigil.pollsOf_congr hpolls]
    exact h
  | ends _ _ _ _ _ hpolls =>
    rw [Vigil.pollsOf_congr hpolls]
    exact h

/-- What is known of a watch since it began. -/
theorem traces_and_course (hp : m.policy.interval ≠ 0) (hash : Hash) (hrun : m.Run .start v)
    (hrun' : m.Run (m.watch hash v).2 v') :
    m.Traces (m.watch hash v).1 hash v.now v' ∧ m.Course (m.watch hash v).1 v.now v' := by
  have d := Run.distinct hrun Vigil.distinct_start
  have d' := d.watch m hash
  have htraces := traces_watch hp hash d
  exact ⟨htraces.run d' hrun', (course_watch hp hash d).run htraces d' hrun'⟩

section
variable (hp : m.policy.interval ≠ 0) (hrun : m.Run .start v)
  (hvain : ∀ n now, (m.reader n now hash).time = now ∧
    (m.reader n now hash).info = some .notFound)
include hp hrun hvain

/-- The watch of a hash that nobody knows ends within a limit exactly if the limit leaves time for
    the poll that comes too late. -/
theorem hasEnded_reached_iff (limit : Millis) :
    (m.reached limit [(m.watch hash v).1] (m.watch hash v).2).hasEnded (m.watch hash v).1 = true ↔
      (m.policy.lostAfter / m.policy.interval + 1) * m.policy.interval < limit := by
  have hbegun := hrun.tail (.watch v hash)
  have hticks := m.ticks_drive (fun u => [(m.watch hash v).1].all u.hasEnded)
    (v.now + limit) (m.watch hash v).2
  obtain ⟨htraces, hcourse⟩ := traces_and_course hp hash hrun (Ticks.run hticks)
  have hpolls := htraces.vain hvain
  constructor
  · intro hended
    obtain ⟨e, he, ht⟩ := List.any_eq_true.1 hended
    obtain ⟨fate, hdecides⟩ := hcourse.decides e he (beq_iff_eq.1 ht)
    have hlength := (length_of_decides hcourse.polls hpolls hdecides).2
    obtain ⟨p, earlier, heq⟩ := List.exists_cons_of_length_eq_add_one hlength
    have hfresh := m.pollsOf_watch hash (Run.distinct hrun Vigil.distinct_start)
    have hlt : p.time < v.now + limit :=
      time_lt_of_drive _ (by rw [hfresh]; nofun) p (heq ▸ List.mem_cons_self)
    have hintime := hcourse.polls
    rw [heq] at hlength hpolls hintime
    rw [hintime.time_of_prompt (Vain.prompt (List.forall_mem_cons.1 hpolls).2)] at hlt
    rw [← hlength]
    exact Nat.lt_of_add_lt_add_left hlt
  · intro hlimit
    rcases reached_or_due_drive (fun u => [(m.watch hash v).1].all u.hasEnded)
      (Run.scheduled hbegun (List.forall_mem_nil _)) (Run.paced hbegun (List.forall_mem_nil _))
      (v.now + limit) with hgoal | hdue
    · exact List.all_eq_true.1 hgoal _ List.mem_cons_self
    · refine (Ticks.ended_or_underway hticks
        (List.mem_append_right _ List.mem_cons_self)).resolve_right ?_
      -- a watch that is still under way would be due before the limit
      rintro ⟨u, hu, ht⟩
      have hnot := hdue u hu
      rw [hcourse.due_eq htraces hpolls hu ht, Nat.add_le_add_iff_left] at hnot
      have hlength := Nat.succ_le_succ (hcourse.length_answers htraces hpolls hu ht hp)
      have hmul := Nat.mul_le_mul_right m.policy.interval hlength
      exact absurd (Nat.lt_of_lt_of_le hlimit (Nat.le_trans hnot hmul)) (Nat.lt_irrefl _)

/-- **Waiting for a hash that nobody knows** gives that it is lost, or nothing within a limit that
    leaves no time for that poll. -/
theorem wait_of_vain (limit : Millis) : (m.wait limit hash v).1 =
    if (m.policy.lostAfter / m.policy.interval + 1) * m.policy.interval < limit then some .lost
    else none := by
  have hawait : (m.awaitAll limit [hash] v).1 = true ↔
      (m.policy.lostAfter / m.policy.interval + 1) * m.policy.interval < limit := by
    change (m.await limit [(m.watch hash v).1] (m.watch hash v).2).1 = true ↔ _
    rw [await_eq_true_iff, List.forall_mem_singleton, hasEnded_reached_iff hp hrun hvain]
  rw [wait_eq]
  by_cases hlimit : (m.policy.lostAfter / m.policy.interval + 1) * m.policy.interval < limit
  · have hended := hawait.2 hlimit
    have d := Run.distinct hrun Vigil.distinct_start
    have hticks := m.ticks_await limit [(m.watch hash v).1] (m.watch hash v).2
    have htold := Told.ticks_of_hash (fun n now => by rw [(hvain n now).2]; rfl) (d.watch m hash)
      (traces_watch hp hash d) (told_watch d hash) hticks
    obtain ⟨e, he, ht, info, hinfo, hfate⟩ := htold.fate? (await_hasEnded hended _ List.mem_cons_self)
    obtain ⟨htraces, hcourse⟩ := traces_and_course hp hash hrun (Ticks.run hticks)
    have hlost := (length_of_decides hcourse.polls (htraces.vain hvain)
      ((htraces.decides e he ht).2 info hinfo)).1
    rw [if_pos hended, if_pos hlimit]
    exact congrArg (fun fate => some (fate.getD noResult)) (hfate.trans hlost)
  · rw [if_neg (mt hawait.1 hlimit), if_neg hlimit]

end

/-- **A watch keeps to its schedule**, whatever else happens and however long its reads take. Polls
    do not overlap. The `k`-th begins no earlier than `k` intervals after the watch, and just then
    if no read before it took longer than an interval; and then none is left out as time passes.
    If every read is over at once and finds nothing, the watch ends with the first poll that comes
    later than the hash may stay unknown, and not before: the hash is lost, and whoever waits for it
    beyond that poll is told. -/
theorem polls_on_schedule (m : Monitor) (v : Vigil) (hash : Hash) (hp : m.policy.interval ≠ 0)
    (hforward : ∀ n now, now ≤ (m.reader n now hash).time) (hrun : m.Run .start v) :
    let ticket := (m.watch hash v).1
    let interval := m.policy.interval
    (∀ v', m.Run (m.watch hash v).2 v' →
      m.OnSchedule v.now (v'.pollsOf ticket).reverse ∧
      ∀ passed, ∀ w ∈ (m.advance passed v').watches, w.ticket = ticket →
        m.Prompt ((m.advance passed v').pollsOf ticket) → v'.now + passed ≤
          v.now + (((m.advance passed v').pollsOf ticket).length + 1) * interval) ∧
    ((∀ n now, (m.reader n now hash).time = now ∧ (m.reader n now hash).info = some .notFound) →
      let last := m.policy.lostAfter / interval + 1
      (∀ v', m.Run (m.watch hash v).2 v' →
        (∀ w ∈ v'.watches, w.ticket = ticket → (m.answers v' w).length < last) ∧
        ∀ e ∈ v'.ends, e.ticket = ticket → (v'.pollsOf ticket).length = last ∧
          ∀ fate, e.fate = some fate → fate = .lost) ∧
      ∀ limit, (m.wait limit hash v).1 = if last * interval < limit then some .lost else none) := by
  intro ticket interval
  have hbegun := hrun.tail (.watch v hash)
  refine ⟨fun v' hrun' => ?_, fun hvain => ⟨fun v' hrun' => ?_, wait_of_vain hp hrun hvain⟩⟩
  · obtain ⟨htraces, hcourse⟩ := traces_and_course hp hash hrun hrun'
    refine ⟨hcourse.polls.onSchedule fun p hpoll => ?_, fun passed w hw ht hprompt => ?_⟩
    · rw [reading, htraces.polls p hpoll]
      exact hforward _ _
    · exact hcourse.le_of_advance hp htraces
        (Run.distinct (hbegun.trans hrun') Vigil.distinct_start)
        (Run.scheduled (hbegun.trans hrun') (List.forall_mem_nil _)) passed hw ht hprompt
  · obtain ⟨htraces, hcourse⟩ := traces_and_course hp hash hrun hrun'
    have hpolls := htraces.vain hvain
    refine ⟨fun w hw ht => Nat.lt_succ_of_le (hcourse.length_answers htraces hpolls hw ht hp),
      fun e he ht => ⟨?_, fun fate hfate => ?_⟩⟩
    · obtain ⟨fate, hdecides⟩ := hcourse.decides e he ht
      exact (length_of_decides hcourse.polls hpolls hdecides).2
    · have hdecides := (htraces.decides e he ht).2 fate hfate
      exact Option.some.inj (length_of_decides hcourse.polls hpolls hdecides).1

end Monitor

/-- Of two hashes nobody knows the one: it was polled twice before the tenth moment, and is lost at
    its third poll. For the other, the poll after a read of nine comes five late, and the schedule
    stays; the poll after a read of twenty comes later than that, and moves it. -/
theorem polls_on_schedule_of_slow :
    let m : Monitor := ⟨.scripted fun hash => if hash = .zero then [] else
      [⟨0, .pending⟩, ⟨9, .error⟩, ⟨1, .pending⟩, ⟨20, .notFound⟩, ⟨0, .pending⟩], ⟨4, 10⟩⟩
    let u := m.advance 9 (m.watch .zero .start).2
    let v := m.advance 50 (m.watch ⟨1⟩ .start).2
    (u.watches.map (·.ticket) = [0] ∧ 9 ≤ ((u.pollsOf 0).length + 1) * 4 ∧
      (m.wait 12 .zero .start).1 = none ∧ (m.wait 13 .zero .start).1 = some .lost) ∧
    (v.pollsOf 0).reverse.map (·.time) = [4, 8, 17, 18, 38, 42, 46] ∧
      m.OnSchedule 0 (v.pollsOf 0).reverse := by
  intro m u v
  have hforward : ∀ hash n now, now ≤ (m.reader n now hash).time :=
    fun _ _ _ => Nat.le_add_right _ _
  have hunknown := Monitor.polls_on_schedule m .start .zero (by decide) (hforward _) .refl
  have hslow := Monitor.polls_on_schedule m .start ⟨1⟩ (by decide) (hforward _) .refl
  have hwait := (hunknown.2 fun _ _ => ⟨rfl, rfl⟩).2
  have hwatches : u.watches.map (·.ticket) = [0] := by decide +kernel
  have hunderway : 0 ∈ u.watches.map (·.ticket) := hwatches ▸ List.mem_cons_self
  obtain ⟨w, hw, ht⟩ := List.mem_map.1 hunderway
  have hprompt : ∀ p ∈ u.pollsOf 0, (m.reading p).time ≤ p.time + 4 := by decide +kernel
  have hpolled : 0 + 9 ≤ 0 + ((u.pollsOf 0).length + 1) * 4 :=
    (hunknown.1 _ .refl).2 9 w hw ht hprompt
  have hrun : m.Run (m.watch ⟨1⟩ .start).2 v := Monitor.Ticks.run (m.ticks_advance 50 _)
  exact ⟨⟨hwatches, by simpa using hpolled, (hwait 12).trans (if_neg (by decide)),
    (hwait 13).trans (if_pos (by decide))⟩, by decide +kernel, (hslow.1 v hrun).1⟩

end NodeFleet

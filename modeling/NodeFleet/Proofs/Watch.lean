/-
  One watch, as a loop that reads the state of its hash again and again.

  * `WatchPolicy.settles?`: what a reading settles after the readings before it;
    `WatchPolicy.Undecided`: readings that settled nothing; `WatchPolicy.Decides`: readings of
    which the last one ended the watch.
  * `Watch.Follows`: what a watch under way knows of its readings. It holds at the start
    (`follows_start`), polls and answers keep it (`Follows.polled`, `Follows.unsettled`), and a
    watch that ends was decided (`Follows.ended`).
  Lists of readings begin with the last one.
-/
import NodeFleet.Watch

namespace NodeFleet

/-- Whether a reading found the transaction pending. -/
def StatusReading.foundPending (r : StatusReading) : Bool := r.info.any (·.status == .pending)

namespace WatchPolicy

variable {p : WatchPolicy} {start : Millis}

theorem verdict?_eq_some_iff {elapsed : Millis} {seen : Bool} {info fate : TxInfo} :
    p.verdict? elapsed seen info = some fate ↔
      info.status = .notFound ∧ seen = false ∧ p.lostAfter < elapsed ∧ fate = .lost ∨
        info.status.isTerminal = true ∧ fate = info := by
  unfold verdict?
  cases hs : info.status with
  | notFound =>
    simp only [TxStatus.isTerminal, Option.ite_none_right_eq_some, Bool.and_eq_true,
      Bool.not_eq_true', decide_eq_true_eq, Option.some.injEq, Bool.false_eq_true, false_and,
      or_false, true_and, and_assoc]
    rw [@eq_comm _ TxInfo.lost fate]
  | error | pending => simp [TxStatus.isTerminal]
  | done | reverted | lost =>
    simp only [TxStatus.isTerminal, Option.some.injEq, reduceCtorEq, false_and, false_or, true_and]
    exact eq_comm

/-- What a reading settles that comes after others, if the watch began at a moment. -/
def settles? (p : WatchPolicy) (start : Millis) (earlier : List StatusReading)
    (r : StatusReading) : Option TxInfo :=
  r.info.bind (p.verdict? (r.time - start) (earlier.any (·.foundPending)))

/-- Readings that settled nothing, and from which the reader came back. -/
def Undecided (p : WatchPolicy) (start : Millis) : List StatusReading → Prop
  | [] => True
  | r :: earlier =>
    r.info.isSome = true ∧ p.settles? start earlier r = none ∧ p.Undecided start earlier

/-- Readings of which the last one ends the watch, with a fate if the reader came back. -/
def Decides (p : WatchPolicy) (start : Millis) (rs : List StatusReading)
    (fate : Option TxInfo) : Prop :=
  ∃ r earlier, rs = r :: earlier ∧ p.Undecided start earlier ∧ p.settles? start earlier r = fate ∧
    (fate = none → r.info = none)

theorem Undecided.not_terminal {rs : List StatusReading} (h : p.Undecided start rs) :
    ∀ r ∈ rs, ∃ info, r.info = some info ∧ info.status.isTerminal = false := by
  induction rs with
  | nil => simp
  | cons r rs ih =>
    obtain ⟨hsome, hnone, hrs⟩ := h
    intro r' hr'
    rcases List.mem_cons.1 hr' with rfl | hr'
    · obtain ⟨info, hinfo⟩ := Option.isSome_iff_exists.1 hsome
      refine ⟨info, hinfo, ?_⟩
      rw [← Bool.not_eq_true]
      intro hterminal
      rw [settles?, hinfo, Option.bind_some,
        verdict?_eq_some_iff.2 (Or.inr ⟨hterminal, rfl⟩)] at hnone
      cases hnone
    · exact ih hrs r' hr'

/-- Readings that settled nothing and never found the transaction pending found nothing. -/
theorem Undecided.unseen {rs : List StatusReading} (h : p.Undecided start rs)
    (hseen : rs.any (·.foundPending) = false) :
    ∀ r ∈ rs, ∃ info, r.info = some info ∧ (info.status = .error ∨ info.status = .notFound) := by
  intro r hr
  obtain ⟨info, hinfo, hterminal⟩ := h.not_terminal r hr
  have hpending : info.status ≠ .pending := by
    simpa [StatusReading.foundPending, hinfo] using List.any_eq_false.1 hseen r hr
  refine ⟨info, hinfo, ?_⟩
  cases hs : info.status with
  | error => exact Or.inl rfl
  | notFound => exact Or.inr rfl
  | pending => exact absurd hs hpending
  | done | reverted | lost =>
    rw [hs] at hterminal
    cases hterminal

end WatchPolicy

namespace Watch

/-- A watch under way, and what it read so far. It knows whether a reading found the transaction
    pending; while it waits for an answer, that answer is still to be counted. -/
inductive Follows (p : WatchPolicy) (start : Millis) : List StatusReading → Watch → Prop where
  | waiting {rs : List StatusReading} {w : Watch} {time : Millis} (phase : w.phase = .poll time)
      (startedAt : w.startedAt = start) (seen : w.seen = rs.any (·.foundPending))
      (undecided : p.Undecided start rs) : Follows p start rs w
  | asking {r : StatusReading} {earlier : List StatusReading} {w : Watch}
      (phase : w.phase = .answer r.time r.info) (startedAt : w.startedAt = start)
      (seen : w.seen = earlier.any (·.foundPending)) (undecided : p.Undecided start earlier) :
      Follows p start (r :: earlier) w

variable {p : WatchPolicy} {start : Millis} {rs : List StatusReading} {w : Watch}

/-- A watch goes on with an answer that settles nothing. -/
theorem absorb_eq_inr {now : Millis} {info : Option TxInfo} {w' : Watch}
    (h : w.absorb p now info = .inr w') :
    ∃ answer, info = some answer ∧ p.verdict? (now - w.startedAt) w.seen answer = none ∧
      w' = w.unsettled now answer := by
  cases info with
  | none => cases h
  | some answer =>
    rw [absorb] at h
    split at h
    · cases h
    · next hnone =>
      cases h
      exact ⟨answer, rfl, hnone, rfl⟩

/-- An answer that ends no watch leaves its ticket and its hash. -/
theorem absorb_inr {now : Millis} {info : Option TxInfo} {w' : Watch}
    (h : w.absorb p now info = .inr w') : w'.ticket = w.ticket ∧ w'.hash = w.hash := by
  obtain ⟨answer, -, -, rfl⟩ := absorb_eq_inr h
  exact ⟨rfl, rfl⟩

/-- An answer that comes ends a watch with a fate. -/
theorem absorb_inl {now : Millis} {info fate : Option TxInfo} (hinfo : info.isSome = true)
    (h : w.absorb p now info = .inl fate) : fate.isSome = true := by
  cases info with
  | none => cases hinfo
  | some info =>
    rw [absorb] at h
    split at h
    · cases h
      rfl
    · cases h

theorem follows_start (hp : p.interval ≠ 0) (ticket : Nat) (hash : Hash) (start : Millis) :
    Follows p start [] (.start p ticket hash start) :=
  .waiting (if_neg hp) rfl rfl trivial

theorem Follows.polled (h : Follows p start rs w) {now : Millis} (hphase : w.phase = .poll now)
    (r : StatusReading) : Follows p start (r :: rs) (w.polled p now r) := by
  cases h with
  | waiting _ hstart hseen hun => exact .asking rfl hstart hseen hun
  | asking hphase' =>
    rw [hphase] at hphase'
    cases hphase'

/-- What an answer makes of a watch. -/
theorem Follows.absorb (h : Follows p start rs w) {now : Millis} {info : Option TxInfo}
    (hphase : w.phase = .answer now info) :
    ∃ r earlier, rs = r :: earlier ∧ r.info = info ∧ p.Undecided start earlier ∧
      w.seen = earlier.any (·.foundPending) ∧ w.startedAt = start ∧ r.time = now := by
  cases h with
  | waiting hphase' =>
    rw [hphase] at hphase'
    cases hphase'
  | @asking r earlier _ hphase' hstart hseen hun =>
    rw [hphase] at hphase'
    cases hphase'
    exact ⟨r, earlier, rfl, rfl, hun, hseen, hstart, rfl⟩

theorem Follows.unsettled (h : Follows p start rs w) {now : Millis} {info : Option TxInfo}
    (hphase : w.phase = .answer now info) {w' : Watch} (hw : w.absorb p now info = .inr w') :
    Follows p start rs w' := by
  obtain ⟨r, earlier, rfl, rfl, hun, hseen, rfl, rfl⟩ := h.absorb hphase
  obtain ⟨answer, hinfo, hnone, rfl⟩ := absorb_eq_inr hw
  refine .waiting rfl rfl ?_ ⟨by simp [hinfo], ?_, hun⟩
  · simp [Watch.unsettled, StatusReading.foundPending, hinfo, hseen, Bool.or_comm]
  · rw [WatchPolicy.settles?, hinfo, Option.bind_some, ← hseen]
    exact hnone

theorem Follows.ended (h : Follows p start rs w) {now : Millis} {info : Option TxInfo}
    (hphase : w.phase = .answer now info) {fate : Option TxInfo}
    (hw : w.absorb p now info = .inl fate) : p.Decides start rs fate := by
  obtain ⟨r, earlier, rfl, rfl, hun, hseen, rfl, rfl⟩ := h.absorb hphase
  refine ⟨r, earlier, rfl, hun, ?_⟩
  cases hinfo : r.info with
  | none =>
    rw [hinfo] at hw
    cases hw
    exact ⟨by rw [WatchPolicy.settles?, hinfo, Option.bind_none], fun _ => rfl⟩
  | some info =>
    rw [hinfo, Watch.absorb] at hw
    split at hw
    · next fate' hfate =>
      cases hw
      refine ⟨?_, nofun⟩
      rw [WatchPolicy.settles?, hinfo, Option.bind_some, ← hseen]
      exact hfate
    · cases hw

end Watch

end NodeFleet

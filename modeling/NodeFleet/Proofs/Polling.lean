/-
  A watch polls until an answer is final, and ends with that one.

  * `WatchPolicy.EndsAt`: which of the readings ends a watch, and with what fate.
  * `Undecided.not_endsAt`, `Decides.first`: the same of the readings as a watch follows them.
  * `Monitor.answers`: what a watch under way was answered so far.
  * `polls_until_final`: whatever else happens, a watch ends at the first answer that ends it, and
    as long as there is none it is answered again and again.
-/
import NodeFleet.Proofs.Fate
import NodeFleet.Proofs.Progress
import NodeFleet.Watch.Script

namespace NodeFleet

/-! ## The answer that ends a watch -/

namespace WatchPolicy

variable {p : WatchPolicy} {start : Millis}

/-- The `k`-th of the readings, the first one first, ends a watch that began at a moment. Either it
    is final, and is itself the fate; or it does not find the transaction, no reading before it
    found it pending, and it comes too late: then the transaction is lost. -/
def EndsAt (p : WatchPolicy) (start : Millis) (rs : List StatusReading) (k : Nat)
    (fate : TxInfo) : Prop :=
  ∃ r info, rs[k]? = some r ∧ r.info = some info ∧
    (info.status ∈ [.done, .reverted, .lost] ∧ fate = info ∨
      info.status = .notFound ∧ (∀ r' ∈ rs.take k, r'.foundPending = false) ∧
        p.lostAfter < r.time - start ∧ fate = .lost)

/-- The last of the readings ends a watch, and none before it does. -/
def FirstEnd (p : WatchPolicy) (start : Millis) (rs : List StatusReading) (fate : TxInfo) : Prop :=
  ∃ k, rs.length = k + 1 ∧ p.EndsAt start rs k fate ∧ ∀ j < k, ∀ other, ¬p.EndsAt start rs j other

theorem endsAt_iff {rs : List StatusReading} {k : Nat} {fate : TxInfo} :
    p.EndsAt start rs k fate ↔
      ∃ r, rs[k]? = some r ∧ p.settles? start (rs.take k) r = some fate := by
  have hfinal : ∀ s : TxStatus, s ∈ [.done, .reverted, .lost] ↔ s.isTerminal = true := by
    intro s
    cases s <;> decide
  have hunseen : (rs.take k).any (·.foundPending) = false ↔
      ∀ r' ∈ rs.take k, r'.foundPending = false := by simp
  constructor
  · rintro ⟨r, info, hr, hinfo, hends⟩
    refine ⟨r, hr, ?_⟩
    rw [settles?, hinfo, Option.bind_some, verdict?_eq_some_iff, hunseen, ← hfinal]
    exact hends.symm
  · rintro ⟨r, hr, hsettles⟩
    obtain ⟨info, hinfo, hverdict⟩ := Option.bind_eq_some_iff.1 hsettles
    rw [verdict?_eq_some_iff, hunseen, ← hfinal] at hverdict
    exact ⟨r, info, hr, hinfo, hverdict.symm⟩

/-- Later readings do not matter. -/
theorem endsAt_concat_of_lt {rs : List StatusReading} {r : StatusReading} {k : Nat} {fate : TxInfo}
    (h : k < rs.length) : p.EndsAt start (rs ++ [r]) k fate ↔ p.EndsAt start rs k fate := by
  rw [endsAt_iff, endsAt_iff, List.getElem?_append_left h,
    List.take_append_of_le_length (Nat.le_of_lt h)]

theorem endsAt_concat {rs : List StatusReading} {r : StatusReading} {fate : TxInfo} :
    p.EndsAt start (rs ++ [r]) rs.length fate ↔ p.settles? start rs r = some fate := by
  rw [endsAt_iff, List.take_left, List.getElem?_concat_length]
  simp

/-- Whether the transaction was seen does not depend on the order of the readings. -/
theorem settles?_reverse (earlier : List StatusReading) (r : StatusReading) :
    p.settles? start earlier.reverse r = p.settles? start earlier r := by
  rw [settles?, settles?, List.any_reverse]

/-- Readings that settled nothing hold none that ends a watch. -/
theorem Undecided.not_endsAt {rs : List StatusReading} (h : p.Undecided start rs) (k : Nat)
    (fate : TxInfo) : ¬p.EndsAt start rs.reverse k fate := by
  induction rs with
  | nil =>
    rintro ⟨r, info, hr, -⟩
    cases hr
  | cons r rs ih =>
    obtain ⟨-, hnone, hrest⟩ := h
    rw [List.reverse_cons]
    rcases Nat.lt_trichotomy k rs.reverse.length with hlt | rfl | hgt
    · exact fun hends => ih hrest ((endsAt_concat_of_lt hlt).1 hends)
    · rw [endsAt_concat, settles?_reverse, hnone]
      nofun
    · rintro ⟨r', info, hr', -⟩
      rw [List.getElem?_eq_none (by simpa using Nat.succ_le_of_lt hgt)] at hr'
      cases hr'

/-- Readings that decided a fate end with the first that does. -/
theorem Decides.first {rs : List StatusReading} {fate : TxInfo}
    (h : p.Decides start rs (some fate)) : p.FirstEnd start rs.reverse fate := by
  obtain ⟨r, earlier, rfl, hun, hsettles, -⟩ := h
  refine ⟨earlier.reverse.length, by simp, ?_, ?_⟩
  · rw [List.reverse_cons, endsAt_concat, settles?_reverse, hsettles]
  · intro j hj other
    rw [List.reverse_cons, endsAt_concat_of_lt hj]
    exact hun.not_endsAt j other

end WatchPolicy

/-! ## Watches under way -/

section
variable {p : WatchPolicy} {start : Millis} {rs : List StatusReading} {w : Watch}

/-- The answers that a watch got settled nothing, and from them it knows whether the transaction
    was seen. -/
theorem Watch.Follows.answered (h : Follows p start rs w) :
    p.Undecided start (rs.drop w.unanswered) ∧
      w.seen = (rs.drop w.unanswered).any (·.foundPending) := by
  cases h with
  | waiting hphase _ hseen hun =>
    rw [w.unanswered_of_poll hphase]
    exact ⟨hun, hseen⟩
  | asking hphase _ hseen hun =>
    rw [w.unanswered_of_answer hphase]
    exact ⟨hun, hseen⟩

end

namespace Monitor

variable {m : Monitor} {v v' : Vigil} {w : Watch} {hash : Hash} {start : Millis}

/-- What a watch under way was answered so far, the first answer first. -/
def answers (m : Monitor) (v : Vigil) (w : Watch) : List StatusReading :=
  ((m.readings v w.ticket).drop w.unanswered).reverse

/-- A watch that came far got many answers. -/
theorem le_length_answers {n : Nat} (h : 2 * n ≤ stage v w) : n ≤ (m.answers v w).length := by
  have hone := w.unanswered_le_one
  rw [stage] at h
  rw [answers, List.length_reverse, List.length_drop, readings, List.length_map]
  omega

/-- **A watch polls until an answer is final**, whatever else happens. If it ends, it was answered
    for the last time by the first answer that ends it. As long as it is under way, no answer did;
    it then knows of the transaction whether an answer found it pending, and in time it ends or has
    as many answers as one likes.
    Without an interval there is no schedule to keep, and a reader that dies takes the watch with
    it. -/
theorem polls_until_final (m : Monitor) (v : Vigil) (hash : Hash) (hp : m.policy.interval ≠ 0)
    (hlive : ∀ n now hash, (m.reader n now hash).info.isSome = true) (hrun : m.Run .start v) :
    let ticket := (m.watch hash v).1
    (∃ w ∈ (m.watch hash v).2.watches, w.ticket = ticket) ∧
      ∀ v', m.Run (m.watch hash v).2 v' →
        (∀ e ∈ v'.ends, e.ticket = ticket → ∀ fate, e.fate = some fate →
          m.policy.FirstEnd v.now (m.readings v' ticket).reverse fate) ∧
        ∀ w ∈ v'.watches, w.ticket = ticket →
          (∀ k fate, ¬m.policy.EndsAt v.now (m.answers v' w) k fate) ∧
          (w.seen = true ↔ ∃ r ∈ m.answers v' w, ∃ info, r.info = some info ∧
            info.status = .pending) ∧
          ∀ n, ∃ ds, (∃ e ∈ (m.advanceAll ds v').ends, e.ticket = ticket ∧ e.fate.isSome = true) ∨
            ∃ u ∈ (m.advanceAll ds v').watches, u.ticket = ticket ∧
              n ≤ (m.answers (m.advanceAll ds v') u).length := by
  intro ticket
  have hbegun := hrun.tail (.watch v hash)
  have d := Run.distinct hbegun Vigil.distinct_start
  have htraces : m.Traces ticket hash v.now (m.watch hash v).2 :=
    traces_watch hp hash (Run.distinct hrun Vigil.distinct_start)
  refine ⟨⟨_, List.mem_append_right _ List.mem_cons_self, rfl⟩, fun v' hrun' => ?_⟩
  have d' := Run.distinct hrun' d
  have htraces' := htraces.run d hrun'
  refine ⟨fun e he ht fate hfate => ((htraces'.decides e he ht).2 fate hfate).first, ?_⟩
  intro w hw ht
  obtain ⟨hun, hseen⟩ := (htraces'.follows w hw ht).2.answered
  rw [← ht] at hun hseen
  refine ⟨hun.not_endsAt, ?_, fun n => ?_⟩
  · rw [hseen, List.any_eq_true]
    simp [answers, StatusReading.foundPending, Option.any_eq_true]
  · have hscheduled := Run.scheduled (hbegun.trans hrun') (List.forall_mem_nil _)
    obtain ⟨ds, hended | ⟨u, hu, hticket, hstage⟩⟩ :=
      goes_on hp d' hscheduled hw (ht ▸ htraces') (2 * n)
    · obtain ⟨e, he, hticket⟩ := hended
      -- the watch is under way, so it has not ended before
      have htold : v'.Told ticket := fun e he ht' => absurd (ht'.trans ht.symm) (d'.ends_ne hw he)
      have htold' := Told.ticks hlive d' htraces' htold (m.ticks_advanceAll ds v')
      exact ⟨ds, Or.inl ⟨e, he, hticket.trans ht, htold' e he (hticket.trans ht)⟩⟩
    · exact ⟨ds, Or.inr ⟨u, hu, hticket.trans ht, le_length_answers hstage⟩⟩

end Monitor

/-- A hash that is unknown, then pending, then unknown for longer than the limit, and at last done:
    only the fifth answer ends its watch. -/
theorem polls_until_final_of_script :
    let m : Monitor := ⟨.scripted fun _ => [⟨0, .notFound⟩, ⟨1, .pending⟩, ⟨0, .error⟩,
      ⟨0, .notFound⟩, ⟨0, .done⟩], ⟨2, 3⟩⟩
    let v := m.advance 20 (m.watch .zero .start).2
    let fate := ScriptedStatus.mined .zero 5 .success
    v.fate? 0 = some fate ∧ (m.readings v 0).length = 5 ∧
      m.policy.FirstEnd 0 (m.readings v 0).reverse fate := by
  intro m v fate
  have hlive : ∀ n now hash, (m.reader n now hash).info.isSome = true := by
    intro n now hash
    rcases n with _ | _ | _ | _ | _ | n <;> rfl
  have hfate : v.fate? 0 = some fate := by decide +kernel
  have hlength : (m.readings v 0).length = 5 := by decide +kernel
  have hrun : m.Run (m.watch .zero .start).2 v := Monitor.Ticks.run (m.ticks_advance 20 _)
  have hpolls := Monitor.polls_until_final m .start .zero (by decide) hlive .refl
  obtain ⟨e, hfind, hfate'⟩ := Option.bind_eq_some_iff.1 hfate
  have hticket : e.ticket = 0 := by simpa using List.find?_some hfind
  exact ⟨hfate, hlength,
    (hpolls.2 v hrun).1 e (List.mem_of_find?_eq_some hfind) hticket fate hfate'⟩

end NodeFleet

/-
  Waiting for many hashes at once, and for each of them alone.

  * `StatusReader.Stateless`: what is read depends on the hash and on the moment only.
  * `Monitor.EndsAlone`: how a watch ends that goes on by itself, with every step due before a
    moment. With such a reader there is one way at most (`EndsAlone.unique`), and its ticket does
    not matter (`EndsAlone.retag`).
  * `Monitor.Alone`: among others a watch is where it would be alone, kept by each step
    (`Alone.step`). `await_iff`, `ends_await`: watches that are waited for end as they do alone.
  * `Monitor.Fated`: the fate of a hash that is watched from a moment on. `wait_eq_some_iff`,
    `waitMany_isSome_iff`, `mem_waitMany_iff`: what waiting gives, in its terms.
  * `waits_agree`: waiting for many is waiting for each, but for watches that die.
-/
import NodeFleet.Proofs.Fate
import NodeFleet.Proofs.Progress
import NodeFleet.Watch.Script

namespace NodeFleet

/-- What a reader says depends on nothing but the hash and the moment. -/
def StatusReader.Stateless (reader : StatusReader) : Prop :=
  ∀ n n' now hash, reader n now hash = reader n' now hash

namespace Monitor

variable {m : Monitor} {v v' : Vigil} {w u : Watch} {ws : List Watch} {t : Nat} {hash : Hash}
  {horizon : Millis} {fate fate' : Option TxInfo}

/-! ## One watch alone -/

/-- A watch goes on by itself. It ends, with the fate if its reader lived, or is still under way. -/
def goAlone (m : Monitor) (w : Watch) : Option TxInfo ⊕ Watch :=
  match w.phase with
  | .poll now => .inr (w.polled m.policy now (m.reader 0 now w.hash))
  | .answer now info => w.absorb m.policy now info

theorem goAlone_of_poll {now : Millis} (h : w.phase = .poll now) :
    m.goAlone w = .inr (w.polled m.policy now (m.reader 0 now w.hash)) := by
  rw [goAlone, h]

theorem goAlone_of_answer {now : Millis} {info : Option TxInfo} (h : w.phase = .answer now info) :
    m.goAlone w = w.absorb m.policy now info := by
  rw [goAlone, h]

/-- A watch that goes on by itself ends, with every step due before a moment. -/
inductive EndsAlone (m : Monitor) (horizon : Millis) : Watch → Option TxInfo → Prop
  | last (w : Watch) (fate : Option TxInfo) (hdue : w.due < horizon)
      (hend : m.goAlone w = .inl fate) : EndsAlone m horizon w fate
  | step (w u : Watch) (fate : Option TxInfo) (hdue : w.due < horizon)
      (hgo : m.goAlone w = .inr u) (hrest : EndsAlone m horizon u fate) : EndsAlone m horizon w fate

theorem EndsAlone.due_lt (h : m.EndsAlone horizon w fate) : w.due < horizon := by
  cases h <;> assumption

theorem EndsAlone.of_goAlone (h : m.EndsAlone horizon w fate) (hgo : m.goAlone w = .inr u) :
    m.EndsAlone horizon u fate := by
  cases h with
  | last _ _ _ hend =>
    rw [hgo] at hend
    cases hend
  | step _ u' _ _ hgo' hrest =>
    rw [hgo] at hgo'
    cases hgo'
    exact hrest

/-- A watch has one way to go on. -/
theorem EndsAlone.unique {horizon' : Millis} (h : m.EndsAlone horizon w fate)
    (h' : m.EndsAlone horizon' w fate') : fate = fate' := by
  induction h with
  | last w fate _ hend =>
    cases h' with
    | last _ _ _ hend' =>
      rw [hend] at hend'
      exact Sum.inl.inj hend'
    | step _ _ _ _ hgo =>
      rw [hend] at hgo
      cases hgo
  | step w u fate _ hgo _ ih => exact ih (h'.of_goAlone hgo)

/-- A watch goes on in the same way under another ticket. -/
theorem goAlone_retag (m : Monitor) (w : Watch) (t : Nat) :
    m.goAlone { w with ticket := t } = (m.goAlone w).map id fun u => { u with ticket := t } := by
  unfold goAlone
  cases w.phase with
  | poll now => rfl
  | answer now info =>
    cases info with
    | none => rfl
    | some info =>
      simp only [Watch.absorb]
      cases m.policy.verdict? (now - w.startedAt) w.seen info <;> rfl

theorem EndsAlone.retag (h : m.EndsAlone horizon w fate) (t : Nat) :
    m.EndsAlone horizon { w with ticket := t } fate := by
  induction h with
  | last w fate hdue hend => exact .last _ _ hdue (by rw [goAlone_retag, hend]; rfl)
  | step w u fate hdue hgo _ ih => exact .step _ _ _ hdue (by rw [goAlone_retag, hgo]; rfl) ih

/-- What a watch ends with is final. -/
theorem EndsAlone.terminal {info : TxInfo} (h : m.EndsAlone horizon w (some info)) :
    info.status.isTerminal = true := by
  generalize hfate : some info = fate at h
  induction h with
  | step _ _ _ _ _ _ ih => exact ih hfate
  | last w fate _ hend =>
    subst hfate
    cases hphase : w.phase with
    | poll now =>
      rw [goAlone_of_poll hphase] at hend
      cases hend
    | answer now read =>
      rw [goAlone_of_answer hphase] at hend
      cases read with
      | none => cases hend
      | some read =>
        rw [Watch.absorb] at hend
        split at hend
        · next fate hverdict =>
          cases hend
          rcases WatchPolicy.verdict?_eq_some_iff.1 hverdict with ⟨-, -, -, rfl⟩ | ⟨hterminal, rfl⟩
          · rfl
          · exact hterminal
        · cases hend

/-! ## One watch among others -/

/-- Watches that go on by themselves from one to the other, every step due before a moment. -/
abbrev ComesTo (m : Monitor) (horizon : Millis) : Watch → Watch → Prop :=
  Relation.ReflTransGen fun w u => w.due < horizon ∧ m.goAlone w = .inr u

theorem EndsAlone.comesTo (h : m.EndsAlone horizon w fate) (hcomes : m.ComesTo horizon w u) :
    m.EndsAlone horizon u fate := by
  induction hcomes with
  | refl => exact h
  | tail _ hgo ih => exact ih.of_goAlone hgo.2

theorem ComesTo.endsAlone (hcomes : m.ComesTo horizon w u) (h : m.EndsAlone horizon u fate) :
    m.EndsAlone horizon w fate := by
  induction hcomes using Relation.ReflTransGen.head_induction_on with
  | refl => exact h
  | head hgo _ ih => exact .step _ _ _ hgo.1 hgo.2 ih

/-- Among the others a watch is where it would be alone. -/
structure Alone (m : Monitor) (horizon : Millis) (w : Watch) (v : Vigil) : Prop where
  underway : ∀ u ∈ v.watches, u.ticket = w.ticket → u.hash = w.hash ∧ m.ComesTo horizon w u
  ended : ∀ e ∈ v.ends, e.ticket = w.ticket → e.hash = w.hash ∧ m.EndsAlone horizon w e.fate

/-- **No watch is disturbed by others**, as long as every step is due before the moment. -/
theorem Alone.step (hreader : m.reader.Stateless) (h : m.Alone horizon w v)
    (hu : v.watches.Perm (u :: ws)) (hdue : u.due < horizon) :
    m.Alone horizon w (m.step { v with watches := ws } u) := by
  have hothers : ∀ x ∈ ws, x ∈ v.watches := fun x hx => hu.mem_iff.2 (List.mem_cons_of_mem u hx)
  have hmem : u ∈ v.watches := hu.mem_iff.2 List.mem_cons_self
  cases m.step_goes v u ws with
  | polls p hphase _ hhash _ hends hws =>
    refine ⟨fun x hx ht => ?_, fun e he => h.ended e (hends ▸ he)⟩
    rcases List.mem_cons.1 (hws.mem_iff.1 hx) with rfl | hx
    · obtain ⟨hsame, hcomes⟩ := h.underway u hmem ht
      have hgo : m.goAlone u = .inr (u.polled m.policy p.time (m.reading p)) := by
        rw [goAlone_of_poll hphase, reading, hhash, hreader 0 (p.number - 1)]
      exact ⟨hsame, hcomes.tail ⟨hdue, hgo⟩⟩
    · exact h.underway x (hothers x hx) ht
  | waits now info x hphase habsorb _ hends hws =>
    refine ⟨fun y hy ht => ?_, fun e he => h.ended e (hends ▸ he)⟩
    rcases List.mem_cons.1 (hws.mem_iff.1 hy) with rfl | hy
    · obtain ⟨hticket, hhash⟩ := Watch.absorb_inr habsorb
      obtain ⟨hsame, hcomes⟩ := h.underway u hmem (hticket.symm.trans ht)
      exact ⟨hhash.trans hsame, hcomes.tail ⟨hdue, (goAlone_of_answer hphase).trans habsorb⟩⟩
    · exact h.underway y (hothers y hy) ht
  | ends now info fate hphase habsorb _ hends hws =>
    refine ⟨fun x hx => h.underway x (hothers x (hws ▸ hx)), fun e he ht => ?_⟩
    rw [hends, List.mem_append, List.mem_singleton] at he
    rcases he with he | rfl
    · exact h.ended e he ht
    · obtain ⟨hsame, hcomes⟩ := h.underway u hmem ht
      exact ⟨hsame, hcomes.endsAlone (.last u fate hdue ((goAlone_of_answer hphase).trans habsorb))⟩

theorem Alone.drive (hreader : m.reader.Stateless) (h : m.Alone horizon w v)
    (goal : Vigil → Bool) : m.Alone horizon w (m.drive goal horizon v) :=
  driveFor_induction (fun _ _ _ hu hdue h => h.step hreader hu hdue) goal _ h

/-- At first every watch is where it is. -/
theorem alone_of_mem (d : v.Distinct) (hw : w ∈ v.watches) : m.Alone horizon w v := by
  refine ⟨fun u hu ht => ?_, fun e he ht => absurd ht (d.ends_ne hw he)⟩
  have hnodup : (v.watches.map (·.ticket)).Nodup := (List.nodup_append.1 d.nodup).1
  rw [List.inj_on_of_nodup_map hnodup hu hw ht]
  exact ⟨rfl, .refl⟩

/-! ## Waiting -/

/-- No ticket comes or goes by itself. -/
theorem Ticks.tickets (h : m.Ticks v v') : v'.tickets.Perm v.tickets := by
  induction h with
  | refl => exact .refl _
  | tail _ htick ih =>
    cases htick with
    | step hw => exact ((m.step_goes _ _ _).tickets hw).trans ih
    | clock => exact ih

/-- A watch under way ends, or is still under way. -/
theorem Ticks.ended_or_underway (h : m.Ticks v v') (hw : w ∈ v.watches) :
    v'.hasEnded w.ticket = true ∨ ∃ u ∈ v'.watches, u.ticket = w.ticket := by
  have hticket : w.ticket ∈ v'.tickets :=
    (Ticks.tickets h).mem_iff.2 (Vigil.mem_tickets_of_watch hw)
  rcases List.mem_append.1 hticket with hunderway | hended
  · exact Or.inr (List.mem_map.1 hunderway)
  · obtain ⟨e, he, ht⟩ := List.mem_map.1 hended
    exact Or.inl (List.any_eq_true.2 ⟨e, he, beq_iff_eq.2 ht⟩)

/-- A watch that has ended has ended as it had before. -/
theorem Ticks.mem_ends (h : m.Ticks v v') (d : v'.Distinct) {e : WatchEnd} (he : e ∈ v'.ends)
    (hended : v.hasEnded e.ticket = true) : e ∈ v.ends := by
  obtain ⟨e', he', ht⟩ := List.any_eq_true.1 hended
  have hnodup : (v'.ends.map (·.ticket)).Nodup := (List.nodup_append.1 d.nodup).2.1
  have hsame : e' = e :=
    List.inj_on_of_nodup_map hnodup ((Ticks.keeps_ends h).subset he') he (by simpa using ht)
  exact hsame ▸ he'

/-- Where watches are once they have ended, or once nothing more can happen within the limit. -/
def reached (m : Monitor) (limit : Millis) (tickets : List Nat) (v : Vigil) : Vigil :=
  m.drive (fun v => tickets.all v.hasEnded) (v.now + limit) v

section
variable {limit : Millis} {tickets : List Nat}

theorem drive_of_goal {goal : Vigil → Bool} (h : goal v = true) : m.drive goal horizon v = v := by
  unfold drive
  cases stepsTo horizon v with
  | zero => rfl
  | succ n => rw [driveFor, if_pos h]

theorem await_eq_true_iff : (m.await limit tickets v).1 = true ↔
    ∀ t ∈ tickets, (m.reached limit tickets v).hasEnded t = true := by
  rw [← List.all_eq_true]
  unfold await reached
  dsimp only
  split_ifs with hnow hreached
  · rw [drive_of_goal hnow]
    exact iff_of_true rfl hnow
  · exact iff_of_true rfl hreached
  · exact iff_of_false not_false hreached

theorem ticks_reached_await (h : (m.await limit tickets v).1 = true) :
    m.Ticks (m.reached limit tickets v) (m.await limit tickets v).2 := by
  unfold await reached at *
  dsimp only at *
  split_ifs at * with hnow hreached
  · rw [drive_of_goal hnow]
  · exact .tail (m.ticks_settle _ _) (.clock _ _ _)

section
variable (hreader : m.reader.Stateless) (d : v.Distinct)
include hreader d

theorem alone_reached (hw : w ∈ v.watches) :
    m.Alone (v.now + limit) w (m.reached limit tickets v) :=
  (alone_of_mem d hw).drive hreader _

/-- A watch that is waited for ends as it does alone. -/
theorem ends_await (hended : (m.await limit tickets v).1 = true) (hw : w ∈ v.watches)
    (ht : w.ticket ∈ tickets) {e : WatchEnd} (he : e ∈ (m.await limit tickets v).2.ends)
    (hticket : e.ticket = w.ticket) :
    e.hash = w.hash ∧ m.EndsAlone (v.now + limit) w e.fate := by
  have d' := Run.distinct (Ticks.run (m.ticks_await limit tickets v)) d
  have hbefore : (m.reached limit tickets v).hasEnded e.ticket = true :=
    hticket ▸ await_eq_true_iff.1 hended _ ht
  exact (alone_reached hreader d hw).ended e
    (Ticks.mem_ends (ticks_reached_await hended) d' he hbefore) hticket

/-- **Waiting succeeds exactly if every watch ends by itself within the limit.** -/
theorem await_iff (hs : v.Scheduled) (hpaced : v.Paced m.policy)
    (hbegun : ∀ t ∈ tickets, ∃ w ∈ v.watches, w.ticket = t) :
    (m.await limit tickets v).1 = true ↔
      ∀ w ∈ v.watches, w.ticket ∈ tickets → ∃ fate, m.EndsAlone (v.now + limit) w fate := by
  constructor
  · intro hended w hw ht
    obtain ⟨e, he, hticket⟩ := List.any_eq_true.1 (await_eq_true_iff.1 hended _ ht)
    exact ⟨e.fate, ((alone_reached hreader d hw).ended e he (by simpa using hticket)).2⟩
  · intro hends
    rcases reached_or_due_drive (fun v => tickets.all v.hasEnded) hs hpaced (v.now + limit) with
      hgoal | hdue
    · exact await_eq_true_iff.2 (List.all_eq_true.1 hgoal)
    · refine await_eq_true_iff.2 fun t ht => ?_
      obtain ⟨w, hw, rfl⟩ := hbegun t ht
      refine (Ticks.ended_or_underway (m.ticks_drive _ _ v) hw).resolve_right ?_
      -- a watch that is still under way is not due, but alone it would have ended
      rintro ⟨u, hu, hsame⟩
      obtain ⟨fate, hfate⟩ := hends w hw ht
      have hcomes := ((alone_reached hreader d hw).underway u hu hsame).2
      exact absurd (hfate.comesTo hcomes).due_lt (Nat.not_lt.2 (hdue u hu))

end

end

/-! ## Fates -/

/-- The fate of a hash that is watched from a moment on, no longer than a limit. -/
def Fated (m : Monitor) (start limit : Millis) (hash : Hash) (fate : Option TxInfo) : Prop :=
  m.EndsAlone (start + limit) (.start m.policy 0 hash start) fate

theorem fated_iff {start limit : Millis} (t : Nat) : m.Fated start limit hash fate ↔
    m.EndsAlone (start + limit) (.start m.policy t hash start) fate :=
  ⟨fun h => h.retag t, fun h => h.retag 0⟩

/-- The watches that begin together. -/
theorem watchAll_eq (m : Monitor) (hashes : List Hash) (v : Vigil) :
    m.watchAll hashes v = ((hashes.zipIdx v.started).map (·.2),
      { v with
        started := v.started + hashes.length
        watches := v.watches ++
          (hashes.zipIdx v.started).map fun (hash, t) => .start m.policy t hash v.now }) := by
  induction hashes generalizing v with
  | nil => simp [watchAll]
  | cons hash hashes ih =>
    rw [watchAll, watch]
    dsimp only
    rw [ih]
    simp [List.zipIdx_cons, Nat.add_assoc, Nat.add_comm 1]

section
variable {hashes : List Hash} {limit : Millis}

theorem exists_place (start : Nat) (h : hash ∈ hashes) :
    ∃ p ∈ hashes.zipIdx start, p.1 = hash := by
  rw [← List.zipIdx_map_fst start hashes] at h
  exact List.mem_map.1 h

theorem mem_of_place {start : Nat} {p : Hash × Nat} (h : p ∈ hashes.zipIdx start) :
    p.1 ∈ hashes := by
  rw [← List.zipIdx_map_fst start hashes]
  exact List.mem_map_of_mem h

/-- The watches under way with the tickets that were given are those that have just begun. -/
theorem mem_watchAll_iff (d : v.Distinct) :
    (w ∈ (m.watchAll hashes v).2.watches ∧ w.ticket ∈ (m.watchAll hashes v).1) ↔
      ∃ p ∈ hashes.zipIdx v.started, w = .start m.policy p.2 p.1 v.now := by
  rw [watchAll_eq]
  constructor
  · rintro ⟨hw, ht⟩
    rcases List.mem_append.1 hw with hw | hw
    · obtain ⟨p, hp, hticket⟩ := List.mem_map.1 ht
      have hlt := d.begun _ (Vigil.mem_tickets_of_watch hw)
      have hle := List.le_snd_of_mem_zipIdx hp
      omega
    · obtain ⟨p, hp, rfl⟩ := List.mem_map.1 hw
      exact ⟨p, hp, rfl⟩
  · rintro ⟨p, hp, rfl⟩
    exact ⟨List.mem_append_right _ (List.mem_map.2 ⟨p, hp, rfl⟩), List.mem_map.2 ⟨p, hp, rfl⟩⟩

theorem now_watchAll (m : Monitor) (hashes : List Hash) (v : Vigil) :
    (m.watchAll hashes v).2.now = v.now := by
  rw [watchAll_eq]

/-- Where watches are that began together and were waited for. -/
def awaitAll (m : Monitor) (limit : Millis) (hashes : List Hash) (v : Vigil) : Bool × Vigil :=
  m.await limit (m.watchAll hashes v).1 (m.watchAll hashes v).2

section
variable (hreader : m.reader.Stateless) (hv : m.Run .start v)
include hreader hv

theorem awaitAll_iff : (m.awaitAll limit hashes v).1 = true ↔
    ∀ hash ∈ hashes, ∃ fate, m.Fated v.now limit hash fate := by
  have hrun := hv.trans (m.run_watchAll hashes v)
  have d := Run.distinct hv Vigil.distinct_start
  have hbegun : ∀ t ∈ (m.watchAll hashes v).1,
      ∃ w ∈ (m.watchAll hashes v).2.watches, w.ticket = t := by
    intro t ht
    rw [watchAll_eq] at ht
    obtain ⟨p, hp, rfl⟩ := List.mem_map.1 ht
    exact ⟨_, ((mem_watchAll_iff d).2 ⟨p, hp, rfl⟩).1, rfl⟩
  rw [awaitAll, await_iff hreader (Run.distinct hrun Vigil.distinct_start)
    (Run.scheduled hrun (List.forall_mem_nil _)) (Run.paced hrun (List.forall_mem_nil _)) hbegun,
    now_watchAll]
  constructor
  · intro h hash hhash
    obtain ⟨p, hp, rfl⟩ := exists_place v.started hhash
    obtain ⟨hw, ht⟩ := (mem_watchAll_iff d).2 ⟨p, hp, rfl⟩
    exact (h _ hw ht).imp fun fate hfate => (fated_iff p.2).2 hfate
  · intro h w hw ht
    obtain ⟨p, hp, rfl⟩ := (mem_watchAll_iff d).1 ⟨hw, ht⟩
    exact (h p.1 (mem_of_place hp)).imp fun fate hfate => (fated_iff p.2).1 hfate

/-- What a watch ended with that began at one of the places and was waited for. -/
theorem fated_of_place (hended : (m.awaitAll limit hashes v).1 = true) {p : Hash × Nat}
    (hp : p ∈ hashes.zipIdx v.started) {e : WatchEnd}
    (he : e ∈ (m.awaitAll limit hashes v).2.ends) (ht : e.ticket = p.2) :
    e.hash = p.1 ∧ m.Fated v.now limit p.1 e.fate := by
  have d := Run.distinct hv Vigil.distinct_start
  obtain ⟨hw, hmem⟩ := (mem_watchAll_iff d).2 ⟨p, hp, rfl⟩
  obtain ⟨hhash, hends⟩ := ends_await hreader
    (Run.distinct (m.run_watchAll hashes v) d) hended hw hmem he ht
  rw [now_watchAll] at hends
  exact ⟨hhash, (fated_iff p.2).2 hends⟩

theorem fated_of_end (hended : (m.awaitAll limit hashes v).1 = true) {e : WatchEnd}
    (he : e ∈ (m.awaitAll limit hashes v).2.ends) (ht : e.ticket ∈ (m.watchAll hashes v).1) :
    e.hash ∈ hashes ∧ m.Fated v.now limit e.hash e.fate := by
  rw [watchAll_eq] at ht
  obtain ⟨p, hp, hticket⟩ := List.mem_map.1 ht
  obtain ⟨hhash, hfated⟩ := fated_of_place hreader hv hended hp he hticket.symm
  rw [hhash]
  exact ⟨mem_of_place hp, hfated⟩

theorem exists_end (hended : (m.awaitAll limit hashes v).1 = true) (hhash : hash ∈ hashes) :
    ∃ e ∈ (m.awaitAll limit hashes v).2.ends,
      e.ticket ∈ (m.watchAll hashes v).1 ∧ e.hash = hash := by
  obtain ⟨p, hp, rfl⟩ := exists_place v.started hhash
  have hmem : p.2 ∈ (m.watchAll hashes v).1 := by
    rw [watchAll_eq]
    exact List.mem_map_of_mem hp
  obtain ⟨e, he, ht⟩ := List.any_eq_true.1 (await_hasEnded hended p.2 hmem)
  have hticket : e.ticket = p.2 := by simpa using ht
  exact ⟨e, he, hticket ▸ hmem, (fated_of_place hreader hv hended hp he hticket).1⟩

end

end

/-! ## What waiting gives -/

/-- What a wait tells of a watch that died. -/
def noResult : TxInfo := .error "monitor task ended without a result"

theorem wait_eq (m : Monitor) (limit : Millis) (hash : Hash) (v : Vigil) :
    (m.wait limit hash v).1 =
      if (m.awaitAll limit [hash] v).1 then
        some (((m.awaitAll limit [hash] v).2.fate? v.started).getD noResult)
      else none := by
  have hall : m.await limit [(m.watch hash v).1] (m.watch hash v).2 =
      m.awaitAll limit [hash] v := rfl
  unfold wait
  dsimp only
  rw [hall]
  split_ifs <;> rfl

theorem waitMany_eq (m : Monitor) (limit : Millis) (hashes : List Hash) (v : Vigil) :
    (m.waitMany limit hashes v).1 =
      if (m.awaitAll limit hashes v).1 then
        some (fates (m.watchAll hashes v).1 (m.awaitAll limit hashes v).2.ends)
      else none := by
  unfold waitMany awaitAll
  dsimp only
  split_ifs <;> rfl

/-- A watch that ended adds its hash, unless it died, was not asked for, or the hash comes again. -/
theorem keys_fates_cons (tickets : List Nat) (e : WatchEnd) (es : List WatchEnd) :
    (fates tickets (e :: es)).map (·.1) =
      if e.ticket ∈ tickets ∧ e.fate.isSome = true ∧ e.hash ∉ (fates tickets es).map (·.1) then
        e.hash :: (fates tickets es).map (·.1)
      else (fates tickets es).map (·.1) := by
  have hany : ((fates tickets es).any fun p => p.1 == e.hash) = true ↔
      e.hash ∈ (fates tickets es).map (·.1) := by
    simp [List.any_eq_true, List.mem_map]
  rw [fates]
  cases hfate : e.fate with
  | none => simp
  | some info =>
    have hadded : (tickets.contains e.ticket &&
        !(fates tickets es).any fun p => p.1 == e.hash) = true ↔
        e.ticket ∈ tickets ∧ e.hash ∉ (fates tickets es).map (·.1) := by
      rw [Bool.and_eq_true, List.contains_iff_mem, Bool.not_eq_true', ← hany, Bool.not_eq_true]
    simp only [hadded, Option.isSome_some, true_and]
    split_ifs <;> rfl

theorem mem_keys_fates_iff {tickets : List Nat} {es : List WatchEnd} :
    hash ∈ (fates tickets es).map (·.1) ↔
      ∃ e ∈ es, e.ticket ∈ tickets ∧ e.hash = hash ∧ e.fate.isSome = true := by
  constructor
  · intro h
    obtain ⟨⟨_, info⟩, hentry, rfl⟩ := List.mem_map.1 h
    obtain ⟨e, he, ht, hhash, hfate⟩ := mem_fates hentry
    exact ⟨e, he, ht, hhash, by rw [hfate]; rfl⟩
  · rintro ⟨e, he, ht, rfl, hfate⟩
    induction es with
    | nil => cases he
    | cons e' es ih =>
      rw [keys_fates_cons]
      rcases List.mem_cons.1 he with rfl | he
      · split_ifs with hadded
        · exact List.mem_cons_self
        · by_contra hkey
          exact hadded ⟨ht, hfate, hkey⟩
      · split_ifs
        · exact List.mem_cons_of_mem _ (ih he)
        · exact ih he

theorem nodup_keys_fates (tickets : List Nat) (es : List WatchEnd) :
    ((fates tickets es).map (·.1)).Nodup := by
  induction es with
  | nil => exact List.nodup_nil
  | cons e es ih =>
    rw [keys_fates_cons]
    split_ifs with hadded
    · exact List.nodup_cons.2 ⟨hadded.2.2, ih⟩
    · exact ih

section
variable {hashes : List Hash} {limit : Millis} (hreader : m.reader.Stateless)
  (hv : m.Run .start v)
include hreader hv

/-- **Waiting for a hash** gives the fate of its watch, or says that there is none. -/
theorem wait_eq_some_iff {info : TxInfo} : (m.wait limit hash v).1 = some info ↔
    ∃ fate, m.Fated v.now limit hash fate ∧ info = fate.getD noResult := by
  have hall : (m.awaitAll limit [hash] v).1 = true ↔ ∃ fate, m.Fated v.now limit hash fate :=
    (awaitAll_iff hreader hv).trans List.forall_mem_singleton
  have htold (hended : (m.awaitAll limit [hash] v).1 = true) :
      m.Fated v.now limit hash ((m.awaitAll limit [hash] v).2.fate? v.started) := by
    obtain ⟨e, he, ht, hfate⟩ := Vigil.fate?_of_hasEnded
      (await_hasEnded hended v.started List.mem_cons_self)
    rw [awaitAll, hfate]
    exact (fated_of_place hreader hv hended (p := (hash, v.started)) List.mem_cons_self he ht).2
  rw [wait_eq]
  constructor
  · intro h
    split_ifs at h with hended
    exact ⟨_, htold hended, (Option.some.inj h).symm⟩
  · rintro ⟨fate, hfated, rfl⟩
    have hended := hall.2 ⟨fate, hfated⟩
    rw [if_pos hended, (htold hended).unique hfated]

theorem waitMany_isSome_iff : (m.waitMany limit hashes v).1.isSome = true ↔
    ∀ hash ∈ hashes, ∃ fate, m.Fated v.now limit hash fate := by
  rw [← awaitAll_iff hreader hv, waitMany_eq]
  split_ifs with hended
  · exact iff_of_true rfl hended
  · exact iff_of_false Bool.false_ne_true hended

/-- **Waiting for many** gives the fates of their watches, but for those that died. -/
theorem mem_waitMany_iff {told : List (Hash × TxInfo)}
    (htold : (m.waitMany limit hashes v).1 = some told) {info : TxInfo} :
    (hash, info) ∈ told ↔ hash ∈ hashes ∧ m.Fated v.now limit hash (some info) := by
  rw [waitMany_eq] at htold
  split_ifs at htold with hended
  have hmem {info : TxInfo} (h : (hash, info) ∈ told) :
      hash ∈ hashes ∧ m.Fated v.now limit hash (some info) := by
    cases htold
    obtain ⟨e, he, ht, rfl, hfate⟩ := mem_fates h
    rw [← hfate]
    exact fated_of_end hreader hv hended he ht
  refine ⟨hmem, fun ⟨hhash, hfated⟩ => ?_⟩
  obtain ⟨e, he, ht, rfl⟩ := exists_end hreader hv hended hhash
  have hfate : e.fate = some info := (fated_of_end hreader hv hended he ht).2.unique hfated
  have hkey : e.hash ∈ told.map (·.1) := by
    cases htold
    exact mem_keys_fates_iff.2 ⟨e, he, ht, rfl, by rw [hfate]; rfl⟩
  obtain ⟨⟨_, info'⟩, hentry, rfl⟩ := List.mem_map.1 hkey
  have hsame := (hmem hentry).2.unique hfated
  cases hsame
  exact hentry

end

/-! ## Watches that live -/

/-- A watch whose reader comes back ends with a fate. -/
theorem EndsAlone.isSome (h : m.EndsAlone horizon w fate)
    (hlive : ∀ now, (m.reader 0 now w.hash).info.isSome = true)
    (hphase : ∀ now info, w.phase = .answer now info → info.isSome = true) :
    fate.isSome = true := by
  induction h with
  | last w fate _ hend =>
    cases hw : w.phase with
    | poll now =>
      rw [goAlone_of_poll hw] at hend
      cases hend
    | answer now info =>
      exact Watch.absorb_inl (hphase now info hw) ((goAlone_of_answer hw).symm.trans hend)
  | step w u fate _ hgo _ ih =>
    cases hw : w.phase with
    | poll now =>
      rw [goAlone_of_poll hw] at hgo
      cases hgo
      refine ih hlive ?_
      rintro _ _ ⟨⟩
      exact hlive now
    | answer now info =>
      have habsorb : w.absorb m.policy now info = .inr u := (goAlone_of_answer hw).symm.trans hgo
      refine ih ((Watch.absorb_inr habsorb).2 ▸ hlive) fun now' info' hu => ?_
      have hone := u.unanswered_of_answer hu
      rw [(Watch.unanswered_of_absorb habsorb).1] at hone
      cases hone

theorem Fated.isSome {start limit : Millis} (h : m.Fated start limit hash fate)
    (hp : m.policy.interval ≠ 0) (hlive : ∀ now, (m.reader 0 now hash).info.isSome = true) :
    fate.isSome = true := by
  refine EndsAlone.isSome h hlive fun now info hphase => ?_
  have hstart : (Watch.start m.policy 0 hash start).phase = .poll (start + m.policy.interval) :=
    if_neg hp
  rw [hstart] at hphase
  cases hphase

/-! ## Many and each -/

/-- **Waiting for many is waiting for each**, but for watches that die. Begun at the same moment,
    in whatever company, the one ends within a limit exactly if all of the others do. The result has
    each hash once, and only such as were asked for; it has a hash with what waiting for it alone
    gives, unless this is that there is no result: then, and only then, the hash is missing. So none
    is if there is an interval and the reader always comes back. -/
theorem waits_agree (m : Monitor) (hreader : m.reader.Stateless) (hv : m.Run .start v)
    (hv' : m.Run .start v') (hnow : v'.now = v.now) (limit : Millis) (hashes : List Hash) :
    ((m.waitMany limit hashes v).1.isSome = true ↔
      ∀ hash ∈ hashes, (m.wait limit hash v').1.isSome = true) ∧
    ∀ told, (m.waitMany limit hashes v).1 = some told →
      (told.map (·.1)).Nodup ∧ told.map (·.1) ⊆ hashes ∧
      (∀ hash ∈ hashes, ∃ info, (m.wait limit hash v').1 = some info ∧
        (info ≠ noResult → (hash, info) ∈ told) ∧
        (hash ∈ told.map (·.1) ↔ info ≠ noResult)) ∧
      (m.policy.interval ≠ 0 → (∀ n now hash, (m.reader n now hash).info.isSome = true) →
        hashes ⊆ told.map (·.1)) := by
  have hwait {hash : Hash} {info : TxInfo} : (m.wait limit hash v').1 = some info ↔
      ∃ fate, m.Fated v.now limit hash fate ∧ info = fate.getD noResult :=
    hnow ▸ wait_eq_some_iff hreader hv'
  have hmany : (m.waitMany limit hashes v).1.isSome = true ↔
      ∀ hash ∈ hashes, ∃ fate, m.Fated v.now limit hash fate := waitMany_isSome_iff hreader hv
  refine ⟨hmany.trans (forall₂_congr fun hash _ => ?_), fun told htold => ?_⟩
  · rw [Option.isSome_iff_exists]
    constructor
    · rintro ⟨fate, hfate⟩
      exact ⟨_, hwait.2 ⟨fate, hfate, rfl⟩⟩
    · rintro ⟨info, hinfo⟩
      exact (hwait.1 hinfo).imp fun _ => And.left
  have hentry {hash : Hash} {info : TxInfo} :
      (hash, info) ∈ told ↔ hash ∈ hashes ∧ m.Fated v.now limit hash (some info) :=
    mem_waitMany_iff hreader hv htold
  have hkey {hash : Hash} (hhash : hash ∈ hashes) :
      hash ∈ told.map (·.1) ↔ ∃ info, m.Fated v.now limit hash (some info) := by
    simp [List.mem_map, hentry, hhash]
  have hfates := hmany.1 (by rw [htold]; rfl)
  refine ⟨?_, ?_, fun hash hhash => ?_, fun hp hlive hash hhash => ?_⟩
  · rw [waitMany_eq] at htold
    split_ifs at htold
    cases htold
    exact nodup_keys_fates _ _
  · intro hash h
    obtain ⟨⟨_, info⟩, hmem, rfl⟩ := List.mem_map.1 h
    exact (hentry.1 hmem).1
  · obtain ⟨fate, hfate⟩ := hfates hash hhash
    refine ⟨_, hwait.2 ⟨fate, hfate, rfl⟩, ?_⟩
    rw [hkey hhash]
    cases fate with
    | none =>
      refine ⟨fun h => absurd rfl h, iff_of_false ?_ fun h => h rfl⟩
      rintro ⟨info, hinfo⟩
      cases hinfo.unique hfate
    | some info =>
      have hlives : info ≠ noResult := by
        rintro rfl
        cases hfate.terminal
      exact ⟨fun _ => hentry.2 ⟨hhash, hfate⟩, iff_of_true ⟨info, hfate⟩ hlives⟩
  · obtain ⟨fate, hfate⟩ := hfates hash hhash
    obtain ⟨info, rfl⟩ := Option.isSome_iff_exists.1
      (hfate.isSome hp fun now => hlive 0 now hash)
    exact (hkey hhash).2 ⟨info, hfate⟩

end Monitor

/-- Reads at once that the zero hash is done, and dies of any other. -/
def StatusReader.halfDead : StatusReader := fun _ now hash =>
  ⟨now, if hash = .zero then some (ScriptedStatus.mined hash 1 .success) else none, []⟩

/-- Of three hashes that are waited for, two of them the same, the one that the reader dies of is
    missing; waiting for it alone gives that there is no result. -/
theorem waits_agree_of_halfDead :
    let m : Monitor := ⟨.halfDead, ⟨2, 5⟩⟩
    let done := ScriptedStatus.mined .zero 1 .success
    m.reader.Stateless ∧ ∃ told, (m.waitMany 10 [.zero, ⟨1⟩, .zero] .start).1 = some told ∧
      (told.map (·.1)).Nodup ∧ (.zero, done) ∈ told ∧ (⟨1⟩ : Hash) ∉ told.map (·.1) ∧
      (m.wait 10 .zero .start).1 = some done ∧
      (m.wait 10 ⟨1⟩ .start).1 = some Monitor.noResult := by
  intro m done
  have hreader : m.reader.Stateless := fun _ _ _ _ => rfl
  have hzero : (m.wait 10 .zero .start).1 = some done := rfl
  have hone : (m.wait 10 ⟨1⟩ .start).1 = some Monitor.noResult := rfl
  obtain ⟨hends, htold⟩ :=
    Monitor.waits_agree m hreader .refl .refl rfl 10 [.zero, ⟨1⟩, .zero]
  have hall : ∀ hash ∈ ([.zero, ⟨1⟩, .zero] : List Hash),
      (m.wait 10 hash .start).1.isSome = true := by
    simp only [List.forall_mem_cons, hzero, hone]
    exact ⟨rfl, rfl, rfl, List.forall_mem_nil _⟩
  obtain ⟨told, hmany⟩ := Option.isSome_iff_exists.1 (hends.2 hall)
  obtain ⟨hnodup, -, heach, -⟩ := htold told hmany
  obtain ⟨info, hinfo, hentry, -⟩ := heach .zero (by simp)
  obtain ⟨info', hinfo', -, hkey⟩ := heach ⟨1⟩ (by simp)
  rw [hzero] at hinfo
  rw [hone] at hinfo'
  cases hinfo
  cases hinfo'
  exact ⟨hreader, told, hmany, hnodup, hentry nofun, fun h => hkey.1 h rfl, hzero, hone⟩

/-- A hash whose only watch dies is missing from the result, though waiting for it alone gives
    one. -/
theorem dead_watch_is_missing :
    let m : Monitor := ⟨.scripted fun _ => [⟨0, .crash⟩], ⟨2, 5⟩⟩
    m.reader.Stateless ∧ (m.waitMany 10 [.zero] .start).1 = some [] ∧
      (m.wait 10 .zero .start).1 = some (.error "monitor task ended without a result") := by
  intro m
  refine ⟨fun n n' now hash => ?_, rfl, rfl⟩
  rcases n with _ | n <;> rcases n' with _ | n' <;> rfl

end NodeFleet

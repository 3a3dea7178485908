/-
  Asking an oracle of a feed for prices.

  * `PriceDesk.Awaits`: what the feed gives at the reading that a call has made, by the number of
    the reading. `PriceDesk.Follows`: moves in which every answer is this one, and comes in time.
  * `PriceDesk.Leads`: such moves lead from one desk to another; `PriceDesk.Shows`: a desk at
    which a session is seen.
  * `Shows.finish`, `Shows.stale`, `Shows.fresh`: the parts of a call as moves.
  * `Shows.recommended`, `Shows.together`: a price that is asked for alone, and prices that are
    asked for together, are runs of moves of their calls.
  * `overlapping_calls_tell`: what can be said of every run, and so of these.
-/
import NodeFleet.Proofs.Effects
import NodeFleet.Proofs.PriceDesk

namespace NodeFleet

/-! ## Readings of a feed -/

namespace GasOracle

variable {lifetime : Millis} {feed : PriceFeed} {s : Session}

theorem startReading_of_fresh {gwei : Binary64}
    (h : CachedPrice.usable? s.price lifetime s.now = some gwei) :
    startReading lifetime feed s = (⟨s.now, .ok gwei⟩, s) := by
  rw [startReading, h]

/-- What a reading of the feed comes to that begins now. -/
def nextReading (feed : PriceFeed) (s : Session) : Reading :=
  ⟨s.now + (feed s.feedReads).delay, (feed s.feedReads).value⟩

theorem now_le_nextReading (feed : PriceFeed) (s : Session) :
    s.now ≤ (nextReading feed s).endsAt :=
  Nat.le_add_right _ _

@[simp] theorem now_finish (s : Session) (r : Reading) : (finish s r).now = r.endsAt := by
  rcases r with ⟨endsAt, _ | gwei⟩ <;> rfl

/-- A reading that ends when it begins is finished like the others. -/
theorem startReading_of_stale (h : CachedPrice.usable? s.price lifetime s.now = none) :
    startReading lifetime feed s =
      (nextReading feed s,
        if s.now < (nextReading feed s).endsAt then s.record [.feedRead]
        else finish (s.record [.feedRead]) (nextReading feed s)) := by
  rw [startReading, h]
  rcases hread : feed s.feedReads with ⟨_ | delay, result⟩
  · simp only [nextReading, hread, Nat.add_zero, Nat.lt_irrefl, if_false]
    cases result <;> rfl
  · have hlate : s.now < s.now + (delay + 1) := Nat.lt_add_of_pos_right (Nat.succ_pos delay)
    simp only [nextReading, hread, if_pos hlate]
    rfl

theorem now_startReading (lifetime : Millis) (feed : PriceFeed) (s : Session) :
    (startReading lifetime feed s).2.now = s.now := by
  rcases h : CachedPrice.usable? s.price lifetime s.now with _ | gwei
  · rw [startReading_of_stale h]
    split
    · rfl
    · next hover =>
      rw [now_finish]
      exact Nat.le_antisymm (Nat.not_lt.1 hover) (now_le_nextReading feed s)
  · rw [startReading_of_fresh h]

theorem startAll_succ (lifetime : Millis) (feed : PriceFeed) (n : Nat) (s : Session) :
    startAll lifetime feed (n + 1) s =
      ((startReading lifetime feed s).1 ::
          (startAll lifetime feed n (startReading lifetime feed s).2).1,
        (startAll lifetime feed n (startReading lifetime feed s).2).2) :=
  rfl

theorem length_startAll (lifetime : Millis) (feed : PriceFeed) (n : Nat) (s : Session) :
    (startAll lifetime feed n s).1.length = n := by
  induction n generalizing s with
  | zero => rfl
  | succ n ih => rw [startAll_succ, List.length_cons, ih]

/-- The readings that are not over yet, in the order of time, each with its place. -/
def lateReadings (s : Session) (readings : List Reading) : List (Reading × Nat) :=
  (readings.zipIdx.filter (s.now < ·.1.endsAt)).mergeSort fun p q => p.1.endsAt ≤ q.1.endsAt

theorem mem_lateReadings {readings : List Reading} {p : Reading × Nat} :
    p ∈ lateReadings s readings ↔ p ∈ readings.zipIdx ∧ s.now < p.1.endsAt := by
  simp [lateReadings]

theorem finishAll_eq (s : Session) (readings : List Reading) :
    finishAll s readings = ((lateReadings s readings).map (·.1)).foldl finish s := by
  have hmap : (readings.zipIdx.filter (s.now < ·.1.endsAt)).map (·.1) =
      readings.filter (s.now < ·.endsAt) := by
    have hfirst := List.zipIdx_map_fst 0 readings
    conv_rhs => rw [← hfirst, List.filter_map]
    rfl
  have hsort : (lateReadings s readings).map (·.1) =
      ((readings.zipIdx.filter (s.now < ·.1.endsAt)).map (·.1)).mergeSort
        fun r r' => r.endsAt ≤ r'.endsAt :=
    List.map_mergeSort fun _ _ _ _ => rfl
  rw [finishAll, hsort, hmap]

theorem nodup_lateReadings (s : Session) (readings : List Reading) :
    ((lateReadings s readings).map (·.2)).Nodup := by
  have hplaces : (readings.zipIdx.map (·.2)).Nodup := by
    rw [List.zipIdx_map_snd]
    exact List.nodup_range' 1
  refine (List.Perm.nodup_iff ((List.mergeSort_perm _ _).map _)).2 ?_
  exact hplaces.sublist (List.filter_sublist.map _)

theorem pairwise_lateReadings (s : Session) (readings : List Reading) :
    (lateReadings s readings).Pairwise fun p q => p.1.endsAt ≤ q.1.endsAt := by
  have htrans : ∀ p q r : Reading × Nat, decide (p.1.endsAt ≤ q.1.endsAt) = true →
      decide (q.1.endsAt ≤ r.1.endsAt) = true → decide (p.1.endsAt ≤ r.1.endsAt) = true := by
    simp only [decide_eq_true_eq]
    exact fun _ _ _ => Nat.le_trans
  have htotal : ∀ p q : Reading × Nat,
      (decide (p.1.endsAt ≤ q.1.endsAt) || decide (q.1.endsAt ≤ p.1.endsAt)) = true := by
    simp only [Bool.or_eq_true, decide_eq_true_eq]
    exact fun _ _ => Nat.le_total _ _
  exact (List.pairwise_mergeSort htrans htotal _).imp fun h => of_decide_eq_true h

end GasOracle

namespace PriceDesk

variable {feed : PriceFeed} {lifetime : Millis} {d d' : PriceDesk} {c : Nat}
  {r : GasOracle.Reading}

/-! ## The answers of a feed -/

/-- The readings of the feed, in turn. -/
def readings (d : PriceDesk) : List PriceNote := d.notes.filter (·.deed.isRead)

theorem length_readings (d : PriceDesk) : d.readings.length = d.reads :=
  List.countP_eq_length_filter.symm

/-- A call has made a reading, and this is what the feed gives there. -/
def Awaits (feed : PriceFeed) (d : PriceDesk) (c : Nat) (r : GasOracle.Reading) : Prop :=
  ∃ n t, d.readings[n]? = some ⟨t, c, .read⟩ ∧ r = ⟨t + (feed n).delay, (feed n).value⟩

/-- A call is answered only what it awaits, and when that is there. -/
def Allows (feed : PriceFeed) (d : PriceDesk) : PriceMove → Prop
  | .answer c result => d.Awaits feed c ⟨d.now, result⟩
  | .wait _ | .look _ | .keep _ => True

/-- Moves in turn that the feed allows. -/
def Follows (feed : PriceFeed) (lifetime : Millis) : PriceDesk → List PriceMove → Prop
  | _, [] => True
  | d, m :: ms =>
    d.Allows feed m ∧ ∀ d', d.step? lifetime m = some d' → Follows feed lifetime d' ms

theorem Follows.append {ms ms' : List PriceMove} (h : d.Follows feed lifetime ms)
    (hrun : d.run? lifetime ms = some d') (h' : d'.Follows feed lifetime ms') :
    d.Follows feed lifetime (ms ++ ms') := by
  induction ms generalizing d with
  | nil =>
    cases hrun
    exact h'
  | cons m ms ih =>
    obtain ⟨d₁, hstep, hrun⟩ := run?_cons_eq_some_iff.1 hrun
    refine ⟨h.1, fun d₂ hstep' => ?_⟩
    cases hstep.symm.trans hstep'
    exact ih (h.2 _ hstep) hrun

/-- Some moves that the feed allows lead from one desk to the other. -/
def Leads (feed : PriceFeed) (lifetime : Millis) (d d' : PriceDesk) : Prop :=
  ∃ moves, d.run? lifetime moves = some d' ∧ d.Follows feed lifetime moves

theorem Leads.refl (feed : PriceFeed) (lifetime : Millis) (d : PriceDesk) :
    d.Leads feed lifetime d :=
  ⟨[], rfl, trivial⟩

theorem Leads.step (m : PriceMove) (h : d.step? lifetime m = some d') (hfeed : d.Allows feed m) :
    d.Leads feed lifetime d' :=
  ⟨[m], run?_cons_eq_some_iff.2 ⟨d', h, rfl⟩, hfeed, fun _ _ => trivial⟩

theorem Leads.trans {d'' : PriceDesk} (h : d.Leads feed lifetime d')
    (h' : d'.Leads feed lifetime d'') : d.Leads feed lifetime d'' := by
  obtain ⟨moves, hrun, hfeed⟩ := h
  obtain ⟨moves', hrun', hfeed'⟩ := h'
  refine ⟨moves ++ moves', ?_, hfeed.append hrun hfeed'⟩
  rw [run?_append, hrun]
  exact hrun'

/-- A reading keeps its number, whatever happens. -/
theorem Awaits.mono (h : d.Awaits feed c r) (hleads : d.Leads feed lifetime d') :
    d'.Awaits feed c r := by
  obtain ⟨n, t, hread, hr⟩ := h
  obtain ⟨moves, hrun, -⟩ := hleads
  obtain ⟨more, hmore⟩ : d.readings <+: d'.readings := (notes_prefix_run hrun).filter _
  have hlt : n < d.readings.length := (List.getElem?_eq_some_iff.1 hread).1
  refine ⟨n, t, ?_, hr⟩
  rw [← hmore, List.getElem?_append_left hlt, hread]

/-! ## One call, and calls at one moment -/

/-- A desk at which a session's time, price and readings of the feed are seen. -/
structure Shows (d : PriceDesk) (s : Session) : Prop where
  now : d.now = s.now
  price : d.price = s.price
  reads : d.reads = s.feedReads

@[simp] theorem reads_goes (d : PriceDesk) (c : Nat) (call : PriceCall) (deeds : List PriceDeed) :
    (d.goes c call deeds).reads = d.reads + deeds.countP (·.isRead) := by
  simp [reads, goes, List.countP_map, Function.comp_def]

variable {s : Session}

/-- A reading that ends is an answer to its call, which keeps it. -/
theorem Shows.finish (hd : d.Shows s) (hc : d.calls c = .reading) (hawaits : d.Awaits feed c r)
    (hend : s.now ≤ r.endsAt) (lifetime : Millis) :
    ∃ d', d.Leads feed lifetime d' ∧ d'.Shows (GasOracle.finish s r) ∧
      d'.calls = Function.update d.calls c (.told r.result) := by
  have hwait : d.Leads feed lifetime { d with now := r.endsAt } := by
    have hstep : d.Leads feed lifetime { d with now := d.now + (r.endsAt - s.now) } :=
      .step (.wait _) rfl trivial
    rwa [hd.now, Nat.add_sub_of_le hend] at hstep
  let d₀ : PriceDesk := { d with now := r.endsAt }
  rcases r with ⟨endsAt, e | gwei⟩
  · have hanswer : d₀.Leads feed lifetime (d₀.goes c (.told (.error e)) [.answered (.error e)]) :=
      .step (.answer c (.error e)) (by simp [step?, d₀, hc]) hawaits
    refine ⟨_, hwait.trans hanswer, ⟨rfl, hd.price, ?_⟩, rfl⟩
    rw [reads_goes]
    exact hd.reads
  · let d₁ := d₀.goes c (.holding ⟨gwei, endsAt⟩) [.answered (.ok gwei)]
    have hanswer : d₀.Leads feed lifetime d₁ :=
      .step (.answer c (.ok gwei)) (by simp [step?, d₀, d₁, hc]) hawaits
    have hkeep : d₁.Leads feed lifetime
        { d₁.goes c (.told (.ok gwei)) [.kept ⟨gwei, endsAt⟩] with price := some ⟨gwei, endsAt⟩ } :=
      .step (.keep c) (by simp [step?, d₁, goes]) trivial
    refine ⟨_, (hwait.trans hanswer).trans hkeep, ⟨rfl, rfl, ?_⟩, Function.update_idem _ _ _⟩
    change (d₁.goes c (.told (.ok gwei)) [.kept ⟨gwei, endsAt⟩]).reads = s.feedReads
    rw [reads_goes, reads_goes]
    exact hd.reads

/-- A call that sees no price that can be used reads the feed, and awaits what it gives next. -/
theorem Shows.stale (hd : d.Shows s) (hc : d.calls c = .asked)
    (husable : CachedPrice.usable? s.price lifetime s.now = none) (feed : PriceFeed) :
    ∃ d', d.Leads feed lifetime d' ∧ d'.Shows (s.record [.feedRead]) ∧
      d'.calls = Function.update d.calls c .reading ∧
      d'.Awaits feed c (GasOracle.nextReading feed s) := by
  rw [← hd.price, ← hd.now] at husable
  let d₁ := d.goes c .reading [.looked d.price, .read]
  have hlook : d.Leads feed lifetime d₁ :=
    .step (.look c) (by simp [step?, d₁, hc, husable]) trivial
  have hreads : d₁.reads = (s.record [.feedRead]).feedReads := by
    rw [reads_goes, hd.reads]
    simp [Session.feedReads, Session.record, PriceDeed.isRead]
  have hreadings : d₁.readings = d.readings ++ [⟨s.now, c, .read⟩] := by
    simp [readings, d₁, goes, PriceDeed.isRead, hd.now]
  refine ⟨d₁, hlook, ⟨hd.now, hd.price, hreads⟩, rfl, s.feedReads, s.now, ?_, rfl⟩
  rw [hreadings, ← hd.reads, ← length_readings, List.getElem?_concat_length]

theorem Shows.fresh (hd : d.Shows s) (hc : d.calls c = .asked) {gwei : Binary64}
    (husable : CachedPrice.usable? s.price lifetime s.now = some gwei) (feed : PriceFeed) :
    ∃ d', d.Leads feed lifetime d' ∧ d'.Shows s ∧
      d'.calls = Function.update d.calls c (.told (.ok gwei)) := by
  rw [← hd.price, ← hd.now] at husable
  refine ⟨d.goes c (.told (.ok gwei)) [.looked d.price],
    .step (.look c) (by simp [step?, hc, husable]) trivial, ⟨hd.now, hd.price, ?_⟩, rfl⟩
  rw [reads_goes]
  exact hd.reads

/-- A call that reads the feed and waits for its answer. -/
theorem Shows.readThrough (hd : d.Shows s) (hc : d.calls c = .asked)
    (husable : CachedPrice.usable? s.price lifetime s.now = none) (feed : PriceFeed) :
    ∃ d', d.Leads feed lifetime d' ∧
      d'.Shows (GasOracle.finish (s.record [.feedRead]) (GasOracle.nextReading feed s)) ∧
      d'.calls = Function.update d.calls c (.told (GasOracle.nextReading feed s).result) := by
  obtain ⟨d₁, hlook, hshows, hcalls, hawaits⟩ := hd.stale hc husable feed
  have hreading : d₁.calls c = .reading := by rw [hcalls, Function.update_self]
  obtain ⟨d', hfinish, hshows', hcalls'⟩ :=
    hshows.finish hreading hawaits (GasOracle.now_le_nextReading feed s) lifetime
  refine ⟨d', hlook.trans hfinish, hshows', ?_⟩
  rw [hcalls', hcalls, Function.update_idem]

/-- One price that is asked for is a run of moves of one call. -/
theorem Shows.recommended (hd : d.Shows s) (hc : d.calls c = .asked) (feed : PriceFeed)
    (lifetime : Millis) :
    ∃ d', d.Leads feed lifetime d' ∧
      d'.Shows ((GasOracle.mk (.feed feed) lifetime).recommended.outcome s).2 ∧
      d'.calls = Function.update d.calls c
        (.told ((GasOracle.mk (.feed feed) lifetime).recommended.outcome s).1) := by
  simp only [GasOracle.recommended, Run.outcome_bind, Run.outcome_get]
  rcases husable : CachedPrice.usable? s.price lifetime s.now with _ | gwei
  · have hread : (GasOracle.readFeed feed).outcome s =
        ((GasOracle.nextReading feed s).result,
          GasOracle.finish (s.record [.feedRead]) (GasOracle.nextReading feed s)) := by
      rw [GasOracle.outcome_readFeed]
      simp only [GasOracle.nextReading]
      cases (feed s.feedReads).value <;> rfl
    simp only [hread]
    exact hd.readThrough hc husable feed
  · exact hd.fresh hc husable feed

/-- How far a call has come whose reading has begun: it awaits what comes later, and else has been
    told it. -/
def CameTo (feed : PriceFeed) (d : PriceDesk) (now : Millis) (c : Nat) (r : GasOracle.Reading) :
    Prop :=
  if now < r.endsAt then d.calls c = .reading ∧ d.Awaits feed c r else d.calls c = .told r.result

theorem CameTo.mono {now : Millis} (h : d.CameTo feed now c r) (hleads : d.Leads feed lifetime d')
    (hcall : d'.calls c = d.calls c) : d'.CameTo feed now c r := by
  unfold CameTo at h ⊢
  rw [hcall]
  split_ifs at h ⊢
  · exact ⟨h.1, h.2.mono hleads⟩
  · exact h

/-- A call that begins is told a price at once or reads the feed, and it ends at once if the
    feed answers at once. -/
theorem Shows.startReading (hd : d.Shows s) (hc : d.calls c = .asked) (lifetime : Millis)
    (feed : PriceFeed) :
    ∃ d', d.Leads feed lifetime d' ∧ d'.Shows (GasOracle.startReading lifetime feed s).2 ∧
      d'.CameTo feed s.now c (GasOracle.startReading lifetime feed s).1 ∧
      ∀ c' ≠ c, d'.calls c' = d.calls c' := by
  rcases husable : CachedPrice.usable? s.price lifetime s.now with _ | gwei
  · rw [GasOracle.startReading_of_stale husable]
    by_cases hlate : s.now < (GasOracle.nextReading feed s).endsAt
    · obtain ⟨d', hleads, hshows, hcalls, hawaits⟩ := hd.stale hc husable feed
      refine ⟨d', hleads, ?_, ?_, fun c' hne => ?_⟩
      · rwa [if_pos hlate]
      · rw [CameTo, if_pos hlate, hcalls, Function.update_self]
        exact ⟨rfl, hawaits⟩
      · rw [hcalls, Function.update_of_ne hne]
    · obtain ⟨d', hleads, hshows, hcalls⟩ := hd.readThrough hc husable feed
      refine ⟨d', hleads, ?_, ?_, fun c' hne => ?_⟩
      · rwa [if_neg hlate]
      · rw [CameTo, if_neg hlate, hcalls, Function.update_self]
      · rw [hcalls, Function.update_of_ne hne]
  · rw [GasOracle.startReading_of_fresh husable]
    obtain ⟨d', hleads, hshows, hcalls⟩ := hd.fresh hc husable feed
    refine ⟨d', hleads, hshows, ?_, fun c' hne => ?_⟩
    · rw [CameTo, if_neg (Nat.lt_irrefl s.now), hcalls, Function.update_self]
    · rw [hcalls, Function.update_of_ne hne]

/-- Calls that begin at one moment, one after another. -/
theorem Shows.startAll (lifetime : Millis) (feed : PriceFeed) (n k : Nat) (hd : d.Shows s)
    (hasked : ∀ c, k ≤ c → c < k + n → d.calls c = .asked) :
    ∃ d', d.Leads feed lifetime d' ∧ d'.Shows (GasOracle.startAll lifetime feed n s).2 ∧
      (GasOracle.startAll lifetime feed n s).2.now = s.now ∧
      (∀ p ∈ (GasOracle.startAll lifetime feed n s).1.zipIdx k,
        d'.CameTo feed s.now p.2 p.1) ∧
      ∀ c, c < k ∨ k + n ≤ c → d'.calls c = d.calls c := by
  induction n generalizing k s d with
  | zero => exact ⟨d, .refl _ _ _, hd, rfl, by simp [GasOracle.startAll], fun _ _ => rfl⟩
  | succ n ih =>
    obtain ⟨d₁, hfirst, hshows, hcame, hothers⟩ :=
      hd.startReading (hasked k (Nat.le_refl k) (by omega)) lifetime feed
    have hnow : (GasOracle.startReading lifetime feed s).2.now = s.now :=
      GasOracle.now_startReading lifetime feed s
    have hasked' : ∀ c, k + 1 ≤ c → c < k + 1 + n → d₁.calls c = .asked := by
      intro c hlo hhi
      rw [hothers c (by omega)]
      exact hasked c (by omega) (by omega)
    obtain ⟨d', hrest, hshows', hnow', hcame', hframe⟩ := ih (k + 1) hshows hasked'
    rw [hnow] at hcame'
    rw [GasOracle.startAll_succ]
    refine ⟨d', hfirst.trans hrest, hshows', hnow'.trans hnow, ?_, fun c hc => ?_⟩
    · intro p hp
      rw [List.zipIdx_cons, List.mem_cons] at hp
      rcases hp with rfl | hp
      · exact hcame.mono hrest (hframe k (.inl (Nat.lt_succ_self k)))
      · exact hcame' p hp
    · rw [hframe c (by omega), hothers c (by omega)]

/-- Readings that end one after another. -/
theorem Shows.finishEach (lifetime : Millis) {readings : List (GasOracle.Reading × Nat)}
    (hd : d.Shows s)
    (hcalls : ∀ p ∈ readings, d.calls p.2 = .reading ∧ d.Awaits feed p.2 p.1)
    (hdistinct : (readings.map (·.2)).Nodup)
    (hsorted : readings.Pairwise fun p q => p.1.endsAt ≤ q.1.endsAt)
    (hends : ∀ p ∈ readings, s.now ≤ p.1.endsAt) :
    ∃ d', d.Leads feed lifetime d' ∧ d'.Shows ((readings.map (·.1)).foldl GasOracle.finish s) ∧
      (∀ p ∈ readings, d'.calls p.2 = .told p.1.result) ∧
      ∀ c ∉ readings.map (·.2), d'.calls c = d.calls c := by
  induction readings generalizing s d with
  | nil => exact ⟨d, .refl _ _ _, hd, by simp, fun _ _ => rfl⟩
  | cons p readings ih =>
    obtain ⟨hnotin, hdistinct⟩ := List.nodup_cons.1 hdistinct
    obtain ⟨hfirst, hsorted⟩ := List.pairwise_cons.1 hsorted
    obtain ⟨hreading, hawaits⟩ := hcalls p (.head _)
    obtain ⟨d₁, hfinish, hshows, hcalls₁⟩ :=
      hd.finish hreading hawaits (hends p (.head _)) lifetime
    have hrest : ∀ q ∈ readings, d₁.calls q.2 = .reading ∧ d₁.Awaits feed q.2 q.1 := by
      intro q hq
      have hne : q.2 ≠ p.2 := fun h => hnotin (List.mem_map.2 ⟨q, hq, h⟩)
      obtain ⟨hreading, hawaits⟩ := hcalls q (.tail _ hq)
      rw [hcalls₁, Function.update_of_ne hne]
      exact ⟨hreading, hawaits.mono hfinish⟩
    obtain ⟨d', hleads, hshows', htold, hframe⟩ :=
      ih hshows hrest hdistinct hsorted fun q hq =>
        (GasOracle.now_finish s p.1).symm ▸ hfirst q hq
    refine ⟨d', hfinish.trans hleads, hshows', fun q hq => ?_, fun c hc => ?_⟩
    · rcases List.mem_cons.1 hq with rfl | hq
      · rw [hframe _ hnotin, hcalls₁, Function.update_self]
      · exact htold q hq
    · obtain ⟨hne, hc⟩ := not_or.1 (fun h => hc (List.mem_cons.2 h))
      rw [hframe c hc, hcalls₁, Function.update_of_ne hne]

/-- Prices that are asked for together are a run of moves of their calls. -/
theorem Shows.together (hd : d.Shows s) (n : Nat) (hasked : ∀ c < n, d.calls c = .asked)
    (feed : PriceFeed) (lifetime : Millis) :
    ∃ d', d.Leads feed lifetime d' ∧
      d'.Shows (((GasOracle.mk (.feed feed) lifetime).together n).run s).2 ∧
      (List.range n).map d'.calls =
        (((GasOracle.mk (.feed feed) lifetime).together n).run s).1.map .told := by
  have hrun : ((GasOracle.mk (.feed feed) lifetime).together n).run s =
      ((GasOracle.startAll lifetime feed n s).1.map (·.result),
        GasOracle.finishAll (GasOracle.startAll lifetime feed n s).2
          (GasOracle.startAll lifetime feed n s).1) := rfl
  obtain ⟨d₁, hstart, hshows, hnow, hcame, -⟩ :=
    hd.startAll lifetime feed n 0 fun c _ hc => hasked c (by omega)
  have hlength := GasOracle.length_startAll lifetime feed n s
  rw [hrun]
  generalize GasOracle.startAll lifetime feed n s = started at *
  rcases started with ⟨readings, s₁⟩
  have hreading : ∀ p ∈ GasOracle.lateReadings s₁ readings,
      d₁.calls p.2 = .reading ∧ d₁.Awaits feed p.2 p.1 := by
    intro p hp
    obtain ⟨hmem, hlate⟩ := GasOracle.mem_lateReadings.1 hp
    have hp := hcame p hmem
    rwa [CameTo, if_pos (hnow ▸ hlate)] at hp
  obtain ⟨d', hfinish, hshows', htold, hframe⟩ := hshows.finishEach lifetime hreading
    (GasOracle.nodup_lateReadings s₁ readings) (GasOracle.pairwise_lateReadings s₁ readings)
    fun p hp => Nat.le_of_lt (GasOracle.mem_lateReadings.1 hp).2
  rw [← GasOracle.finishAll_eq] at hshows'
  have hends : ∀ p ∈ readings.zipIdx, d'.calls p.2 = .told p.1.result := by
    intro p hp
    by_cases hlate : p ∈ GasOracle.lateReadings s₁ readings
    · exact htold p hlate
    · have hover : ¬s.now < p.1.endsAt :=
        fun h => hlate (GasOracle.mem_lateReadings.2 ⟨hp, hnow.symm ▸ h⟩)
      have htold := hcame p hp
      rw [CameTo, if_neg hover] at htold
      rw [hframe, htold]
      rintro hplace
      obtain ⟨q, hq, hplace⟩ := List.mem_map.1 hplace
      have hpq : some q.1 = some p.1 := by
        rw [← List.mk_mem_zipIdx_iff_getElem?.1 (GasOracle.mem_lateReadings.1 hq).1,
          ← List.mk_mem_zipIdx_iff_getElem?.1 hp, hplace]
      exact hlate (Prod.ext (Option.some.inj hpq) hplace ▸ hq)
  refine ⟨d', hstart.trans hfinish, hshows', ?_⟩
  have hplaces : List.range n = readings.zipIdx.map (·.2) := by
    rw [List.zipIdx_map_snd, hlength, List.range_eq_range']
  have hfirsts : readings = readings.zipIdx.map (·.1) := (List.zipIdx_map_fst 0 readings).symm
  rw [hplaces, List.map_map, List.map_map]
  conv_rhs => rw [hfirsts, List.map_map]
  exact List.map_congr_left hends

/-! ## Every run -/

/-- **What overlapping calls for the price of one feed are told**, whatever the feed answers and
    in whatever order they look, are answered and keep their answers. A price that is asked for
    alone, and prices that are asked for together, are told by such a run, in which each reading
    of the feed is answered with what the feed gives there, and when it gives it. -/
theorem overlapping_calls_tell (lifetime : Millis) :
    (∀ now moves d, (opened now).run? lifetime moves = some d →
      d.Tells lifetime ∧
      (∀ m d', d.step? lifetime m = some d' → (∀ c, m ≠ .keep c) → d'.price = d.price) ∧
      ∀ c e d', d.step? lifetime (.answer c (.error e)) = some d' →
        d'.price = d.price ∧ d'.calls = Function.update d.calls c (.told (.error e))) ∧
    ∀ (feed : PriceFeed) (s : Session) (d : PriceDesk), d.Shows s →
      (∀ c, d.calls c = .asked → ∃ d', d.Leads feed lifetime d' ∧
        d'.Shows ((GasOracle.mk (.feed feed) lifetime).recommended.outcome s).2 ∧
        d'.calls = Function.update d.calls c
          (.told ((GasOracle.mk (.feed feed) lifetime).recommended.outcome s).1)) ∧
      ∀ n, (∀ c < n, d.calls c = .asked) → ∃ d', d.Leads feed lifetime d' ∧
        d'.Shows (((GasOracle.mk (.feed feed) lifetime).together n).run s).2 ∧
        (List.range n).map d'.calls =
          (((GasOracle.mk (.feed feed) lifetime).together n).run s).1.map .told := by
  refine ⟨fun now moves d h => ?_, fun feed s d hd =>
    ⟨fun c hc => hd.recommended hc feed lifetime,
      fun n hasked => hd.together n hasked feed lifetime⟩⟩
  have hsound := sound_run (sound_opened lifetime now) h
  refine ⟨hsound.tells, fun m d' => price_step, fun c e d' hstep => ?_⟩
  exact ⟨price_step hstep (by simp), calls_step_of_failure hstep⟩

/-- Two calls read the feed at once and one of them fails; a third finds what the other kept. Two
    prices that are asked for together are the first two that the feed gives. -/
theorem overlapping_calls_tell_of_three :
    let moves : List PriceMove := [.look 0, .look 1, .wait 10, .answer 0 (.ok (.zero false)),
      .answer 1 (.error (.transport "down")), .wait 5, .keep 0, .wait 25, .look 2]
    let feed := PriceFeed.ofList [⟨10, .ok (.zero false)⟩, ⟨5, .error (.transport "down")⟩]
    (∃ d, (opened 0).run? 30 moves = some d ∧ d.price = some ⟨.zero false, 10⟩ ∧
      (10 ≤ d.now ∧ d.HasRead ⟨.zero false, 10⟩) ∧
      d.readsOf 0 = 1 ∧ d.readsOf 1 = 1 ∧ d.readsOf 2 = 0 ∧
      d.calls 1 = .told (.error (.transport "down"))) ∧
    ∃ d, (opened 0).Leads feed 30 d ∧
      [d.calls 0, d.calls 1] = [.told (.ok (.zero false)), .told (.error (.transport "down"))] := by
  intro moves feed
  obtain ⟨htells, htold⟩ := overlapping_calls_tell 30
  constructor
  · have hsome : ((opened 0).run? 30 moves).isSome = true := rfl
    have hrun : (opened 0).run? 30 moves = some (((opened 0).run? 30 moves).get hsome) := rfl
    have htells := (htells 0 moves _ hrun).1
    refine ⟨_, hrun, rfl, htells.price _ rfl, (htells.reads 0 0 none (.head _)).1 (by simp),
      (htells.reads 1 0 none (.tail _ (.tail _ (.head _)))).1 (by simp), ?_,
      (htells.failed 1 _).2 ⟨10, .tail _ (.tail _ (.tail _ (.tail _ (.tail _ (.head _)))))⟩⟩
    have hlooked : (⟨40, 2, .looked (some ⟨.zero false, 10⟩)⟩ : PriceNote) ∈
        (((opened 0).run? 30 moves).get hsome).notes :=
      List.mem_of_getLast? rfl
    exact (htells.reads 2 40 _ hlooked).2 (by simp)
  · have hshows : (opened 0).Shows .start := ⟨rfl, rfl, rfl⟩
    obtain ⟨d, hleads, -, hcalls⟩ := (htold feed .start _ hshows).2 2 fun _ _ => rfl
    exact ⟨d, hleads, hcalls⟩

end PriceDesk

end NodeFleet

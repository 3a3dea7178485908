/-
  What the fate of a watched hash says of the nodes.

  * `Monitor.Justified`: what stands behind a fate. `Traces.justified`: it stands behind every
    fate that a watch ends with.
  * `Vigil.Told`: the watch of a ticket ended with a fate if it ended; it did as long as no reader
    dies and nobody takes the fate (`Told.ticks`).
  * `fates_justified`: the whole way from the answers of the nodes to the fates that are given.
-/
import NodeFleet.Proofs.Status
import NodeFleet.Proofs.Vigil

namespace NodeFleet

/-- What stands behind a fate that a watch ended with, given when it began and its polls, the last
    one first. Each poll asks the nodes that the fleet has at its number. -/
structure Monitor.Justified (m : Monitor) (fleet : Nat → Client) (hash : Hash) (start : Millis)
    (polls : List Poll) (info : TxInfo) : Prop where
  terminal : info.status.isTerminal = true
  /-- No node ever delivered the transaction of a lost hash, and the time is over. -/
  lost : info.status = .lost →
    (∀ p ∈ polls, ∀ tx, ¬(fleet (p.number - 1)).Hears (·.serve p.time (.transaction hash))
      (.ok (some tx))) ∧
    ∃ p earlier, polls = p :: earlier ∧ start + m.policy.lostAfter < (m.reading p).time
  /-- In the last poll, nodes delivered the transaction with its block and then the receipt. -/
  mined : info.status = .done ∨ info.status = .reverted →
    ∃ p earlier tx receipt later, polls = p :: earlier ∧ info = .mined tx receipt ∧
      tx.blockNumber.isSome = true ∧ (info.status = .reverted ↔ receipt.status = .failure) ∧
      (fleet (p.number - 1)).Hears (·.serve p.time (.transaction hash)) (.ok (some tx)) ∧
      p.time ≤ later ∧ later ≤ (m.reading p).time ∧
      (fleet (p.number - 1)).Hears (·.serve later (.receipt hash)) (.ok (some receipt))

variable {m : Monitor} {fleet : Nat → Client} {hash : Hash} {start : Millis} {v v' : Vigil}
  {t : Nat} {info : TxInfo}

theorem TxInfo.eq_lost_or_mined (h : info.status.isTerminal = true) :
    info = .lost ∨ ∃ tx receipt, info = .mined tx receipt := by
  cases info with
  | lost => exact Or.inl rfl
  | mined tx receipt => exact Or.inr ⟨tx, receipt, rfl⟩
  | error | notFound | pending => cases h

theorem TxInfo.status_mined_ne_lost (tx : ChainTransaction) (receipt : Receipt) :
    (TxInfo.mined tx receipt).status ≠ .lost := by
  rw [status]
  split_ifs <;> decide

namespace Monitor

/-- The readings that decide a fate justify it. -/
theorem justified_of_decides
    (hreads : ∀ n now hash, (fleet n).Reads now hash (m.reader n now hash)) {polls : List Poll}
    (hhash : ∀ p ∈ polls, p.hash = hash)
    (h : m.policy.Decides start (polls.map m.reading) (some info)) :
    m.Justified fleet hash start polls info := by
  have hpoll : ∀ p ∈ polls, (fleet (p.number - 1)).Reads p.time hash (m.reading p) :=
    fun p hp => hhash p hp ▸ hreads _ _ _
  obtain ⟨r, rs, heq, hun, hsettles, -⟩ := h
  obtain ⟨p, earlier, rfl, rfl, rfl⟩ := List.map_eq_cons_iff.1 heq
  obtain ⟨read, hread, hverdict⟩ := Option.bind_eq_some_iff.1 hsettles
  have hlast := hpoll p List.mem_cons_self
  rcases WatchPolicy.verdict?_eq_some_iff.1 hverdict with
    ⟨hnotFound, hseen, helapsed, rfl⟩ | ⟨hterminal, rfl⟩
  -- nothing was seen: neither the last poll nor any before it was delivered the transaction
  · refine ⟨rfl, fun _ => ⟨?_, p, earlier, rfl, Nat.add_lt_of_lt_sub' helapsed⟩,
      fun h => absurd h (by decide)⟩
    intro q hq
    rcases List.mem_cons.1 hq with rfl | hearlier
    · exact hlast.not_hears hread (Or.inr hnotFound)
    · obtain ⟨found, hfound, hstatus⟩ := hun.unseen hseen _ (List.mem_map_of_mem hearlier)
      exact (hpoll q hq).not_hears hfound hstatus
  · rcases TxInfo.eq_lost_or_mined hterminal with rfl | ⟨tx, receipt, rfl⟩
    · exact absurd hread hlast.ne_lost
    · obtain ⟨hblock, htx, later, hnow, hlater, hreceipt⟩ := hlast.hears_mined hread
      refine ⟨hterminal, fun h => absurd h (TxInfo.status_mined_ne_lost tx receipt), fun _ => ?_⟩
      refine ⟨p, earlier, tx, receipt, later, rfl, rfl, hblock, ?_, htx, hnow, hlater, hreceipt⟩
      rw [TxInfo.status]
      split_ifs with hfailure
      · exact iff_of_true rfl hfailure
      · exact iff_of_false (by decide) hfailure

theorem Traces.justified (h : m.Traces t hash start v)
    (hreads : ∀ n now hash, (fleet n).Reads now hash (m.reader n now hash)) {e : WatchEnd}
    (he : e ∈ v.ends) (ht : e.ticket = t) (hfate : e.fate = some info) :
    m.Justified fleet hash start (v.pollsOf t) info :=
  justified_of_decides hreads h.polls ((h.decides e he ht).2 info hfate)

end Monitor

/-! ## Fates are told -/

/-- If the watch of a ticket has ended, its fate is there to be told. -/
def Vigil.Told (t : Nat) (v : Vigil) : Prop :=
  ∀ e ∈ v.ends, e.ticket = t → e.fate.isSome = true

/-- What is told of a watch that has ended is what it ended with. -/
theorem Vigil.fate?_of_hasEnded (h : v.hasEnded t = true) :
    ∃ e ∈ v.ends, e.ticket = t ∧ v.fate? t = e.fate := by
  obtain ⟨e, he, ht⟩ := List.any_eq_true.1 h
  cases hfind : v.ends.find? (·.ticket == t) with
  | none => exact absurd ht (List.find?_eq_none.1 hfind e he)
  | some e' =>
    have hticket : e'.ticket = t := by simpa using List.find?_some hfind
    exact ⟨e', List.mem_of_find?_eq_some hfind, hticket, by rw [Vigil.fate?, hfind]; rfl⟩

theorem Vigil.Told.fate? (h : v.Told t) (hended : v.hasEnded t = true) :
    ∃ e ∈ v.ends, e.ticket = t ∧ ∃ info, e.fate = some info ∧ v.fate? t = some info := by
  obtain ⟨e, he, ht, hfate⟩ := Vigil.fate?_of_hasEnded hended
  obtain ⟨info, hinfo⟩ := Option.isSome_iff_exists.1 (h e he ht)
  exact ⟨e, he, ht, info, hinfo, hfate.trans hinfo⟩

namespace Monitor

/-- A watch whose reader comes back ends with a fate. -/
theorem Goes.told {w : Watch} {ws : List Watch} (g : m.Goes v w ws v')
    (hw : v.watches.Perm (w :: ws)) (hlive : ∀ n now, (m.reader n now hash).info.isSome = true)
    (h : m.Traces t hash start v) (htold : v.Told t) : v'.Told t := by
  cases g with
  | polls _ _ _ _ _ hends => exact fun e he => htold e (hends ▸ he)
  | waits _ _ _ _ _ _ hends => exact fun e he => htold e (hends ▸ he)
  | ends now read fate hphase habsorb _ hends =>
    intro e he ht
    rw [hends, List.mem_append, List.mem_singleton] at he
    rcases he with he | rfl
    · exact htold e he ht
    · obtain ⟨-, hfollows⟩ := h.follows w (hw.mem_iff.2 List.mem_cons_self) ht
      obtain ⟨r, rs, heq, hinfo, -⟩ := hfollows.absorb hphase
      obtain ⟨p, earlier, hpolls, rfl, -⟩ := List.map_eq_cons_iff.1 heq
      have hhash : p.hash = hash := h.polls p (hpolls ▸ List.mem_cons_self)
      exact Watch.absorb_inl (by rw [← hinfo, reading, hhash]; exact hlive _ _) habsorb

/-- It is enough that the reader comes back for the hash that is watched. -/
theorem Told.ticks_of_hash (hlive : ∀ n now, (m.reader n now hash).info.isSome = true)
    (d : v.Distinct) (h : m.Traces t hash start v) (htold : v.Told t) (hticks : m.Ticks v v') :
    v'.Told t := by
  induction hticks with
  | refl => exact htold
  | tail hticks htick ih =>
    cases htick with
    | step hw =>
      exact (m.step_goes _ _ _).told hw hlive (h.run d (Ticks.run hticks)) ih
    | clock => exact ih

theorem Told.ticks (hlive : ∀ n now hash, (m.reader n now hash).info.isSome = true)
    (d : v.Distinct) (h : m.Traces t hash start v) (htold : v.Told t) (hticks : m.Ticks v v') :
    v'.Told t :=
  Told.ticks_of_hash (fun n now => hlive n now hash) d h htold hticks

/-! ## From the nodes to the fates -/

theorem told_watch (d : v.Distinct) (hash : Hash) :
    (m.watch hash v).2.Told (m.watch hash v).1 :=
  fun _ he ht => absurd ht (Nat.ne_of_lt (d.begun _ (Vigil.mem_tickets_of_end he)))

theorem wait_eq_some {limit : Millis} (h : m.wait limit hash v = (some info, v')) :
    m.Ticks (m.watch hash v).2 v' ∧ v'.hasEnded (m.watch hash v).1 = true ∧
      (v'.fate? (m.watch hash v).1).getD (.error "monitor task ended without a result") = info := by
  unfold wait at h
  dsimp only at h
  split_ifs at h with hended
  · cases h
    exact ⟨m.ticks_await _ _ _, await_hasEnded hended _ List.mem_cons_self, rfl⟩
  · cases h

theorem waitMany_eq_some {limit : Millis} {hashes : List Hash} {told : List (Hash × TxInfo)}
    (h : m.waitMany limit hashes v = (some told, v')) :
    m.Ticks (m.watchAll hashes v).2 v' ∧ told = fates (m.watchAll hashes v).1 v'.ends := by
  unfold waitMany at h
  dsimp only at h
  split_ifs at h
  · cases h
    exact ⟨m.ticks_await _ _ _, rfl⟩
  · cases h

theorem mem_fates {tickets : List Nat} {es : List WatchEnd}
    (h : (hash, info) ∈ fates tickets es) :
    ∃ e ∈ es, e.ticket ∈ tickets ∧ e.hash = hash ∧ e.fate = some info := by
  induction es with
  | nil => cases h
  | cons e es ih =>
    have hrest : (hash, info) ∈ fates tickets es →
        ∃ e' ∈ e :: es, e'.ticket ∈ tickets ∧ e'.hash = hash ∧ e'.fate = some info := by
      intro h
      obtain ⟨e', he', hall⟩ := ih h
      exact ⟨e', List.mem_cons_of_mem e he', hall⟩
    rw [fates] at h
    split at h
    · next info' hfate =>
      split_ifs at h with hadded
      · rcases List.mem_cons.1 h with heq | h
        · cases heq
          rw [Bool.and_eq_true, List.contains_iff_mem] at hadded
          exact ⟨e, List.mem_cons_self, hadded.1, rfl, hfate⟩
        · exact hrest h
      · exact hrest h
    · exact hrest h

/-- **Every fate is justified by what nodes delivered**, in whatever order they did, poll by poll,
    and whatever else is watched: a fate that a watch ended with, one that was waited for, and each
    of those that were waited for together. -/
theorem fates_justified (m : Monitor) (fleet : Nat → Client) (v : Vigil) (hash : Hash)
    (hp : m.policy.interval ≠ 0)
    (hreads : ∀ n now hash, (fleet n).Reads now hash (m.reader n now hash))
    (hrun : m.Run .start v) :
    (∀ v', m.Run (m.watch hash v).2 v' → ∀ e ∈ v'.ends, e.ticket = (m.watch hash v).1 →
      ∀ info, e.fate = some info → m.Justified fleet hash v.now (v'.pollsOf e.ticket) info) ∧
    (∀ limit info v', m.wait limit hash v = (some info, v') →
      m.Justified fleet hash v.now (v'.pollsOf (m.watch hash v).1) info) ∧
    ∀ limit hashes told v', m.waitMany limit hashes v = (some told, v') →
      ∀ hash info, (hash, info) ∈ told → hash ∈ hashes ∧
        ∃ ticket ∈ (m.watchAll hashes v).1,
          m.Justified fleet hash v.now (v'.pollsOf ticket) info := by
  have d := Run.distinct hrun Vigil.distinct_start
  have d' := d.watch m hash
  have htraces := traces_watch hp hash d
  refine ⟨?_, ?_, ?_⟩
  · intro v' hrun' e he ht info hfate
    rw [ht]
    exact (htraces.run d' hrun').justified hreads he ht hfate
  · intro limit info v' hwait
    obtain ⟨hticks, hended, hfate⟩ := wait_eq_some hwait
    have htold := Told.ticks (fun n now hash => (hreads n now hash).isSome) d' htraces
      (told_watch d hash) hticks
    obtain ⟨e, he, ht, info', hinfo, hfate'⟩ := htold.fate? hended
    rw [hfate', Option.getD_some] at hfate
    exact (htraces.run d' (Ticks.run hticks)).justified hreads he ht (hfate ▸ hinfo)
  · intro limit hashes told v' hwait hash info hmem
    obtain ⟨hticks, rfl⟩ := waitMany_eq_some hwait
    obtain ⟨e, he, ht, hhash, hfate⟩ := mem_fates hmem
    obtain ⟨hash', hmem', htraces'⟩ := traces_watchAll hp d ht
    have dAll := Run.distinct (m.run_watchAll hashes v) d
    have htraces' := htraces'.run dAll (Ticks.run hticks)
    obtain rfl : hash' = hash := (htraces'.decides e he rfl).1.symm.trans hhash
    exact ⟨hmem', e.ticket, ht, htraces'.justified hreads he rfl hfate⟩

end Monitor

/-- A node that knows no transaction and dies of any other request. -/
def Node.unknowing (name : String) : Node where
  name
  serve _ r :=
    match r with
    | .transaction _ => ⟨0, some (.ok none)⟩
    | _ => ⟨0, none⟩

/-- A hash that nobody knows, polled every second moment and given up after five, is lost at the
    third poll. -/
theorem fates_justified_of_unknowing :
    let c : Client := .ofSorted [.unknowing "a"] (List.pairwise_singleton _ _)
    let m : Monitor := ⟨c.statusReader, ⟨2, 5⟩⟩
    ∃ v, m.wait 10 .zero .start = (some .lost, v) ∧ (v.pollsOf 0).length = 3 ∧
      m.Justified (fun _ => c) .zero 0 (v.pollsOf 0) .lost := by
  intro c m
  have hendings : ∀ now hash, endings c.nodeList c.callTimeout now (.transaction hash) =
      [⟨now, some ⟨"a", .ok none⟩⟩] := fun _ _ => List.mergeSort_singleton _
  have hreader : m.reader = fun _ now hash =>
      ⟨now, some .notFound, [⟨now, .asked "a" (.transaction hash)⟩]⟩ := by
    funext n now hash
    have htime : Ending.overAt Option.isSome now
        [(⟨now, some ⟨"a", .ok none⟩⟩ : Ending (Option ChainTransaction))] = now := Nat.max_self now
    have hlooked : (c.transaction hash).outcome (.startingAt now) =
        (.ok none, ⟨now, [⟨now, .asked "a" (.transaction hash)⟩], none⟩) := by
      rw [Client.transaction, Client.outcome_ask, Session.startingAt, hendings, htime]
      rfl
    simp only [m, Client.statusReader, Client.run_txInfo, hlooked]
    rfl
  have hwait : ∃ v, m.wait 10 .zero .start = (some .lost, v) ∧ (v.pollsOf 0).length = 3 := by
    have hm : m = ⟨_, ⟨2, 5⟩⟩ := congrArg (Monitor.mk · _) hreader
    rw [hm]
    exact ⟨_, rfl, rfl⟩
  obtain ⟨v, hwait, hpolls⟩ := hwait
  have hjustified := Monitor.fates_justified m (fun _ => c) .start .zero (by decide)
    c.statusReader_reads .refl
  exact ⟨v, hwait, hpolls, hjustified.2.1 10 _ v hwait⟩

end NodeFleet

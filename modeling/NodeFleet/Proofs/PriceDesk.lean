/-
  Overlapping calls for the price of one feed.

  * `PriceDesk`: the time, the kept price, how far each call has come, and what the calls did.
  * `PriceDesk.step?`, `PriceDesk.run?`: time passes, a call looks at the kept price, the feed
    answers a call, a call keeps what it was answered; nothing fixes the order.
  * `PriceStory`: what a call that has come so far has done.
  * `PriceDesk.run?_keeps`: what every move keeps is kept by runs.
  * `PriceDesk.Sound`, `sound_step`, `sound_run`: the invariant of a desk.
  * `PriceDesk.Tells`: what can be said of prices and calls, and of every sound desk
    (`Sound.tells`).
  * `price_step`, `calls_step_of_failure`: what leaves the kept price and the other calls alone.
    `notes_prefix_run`: nothing that was noted is lost.
-/
import NodeFleet.GasOracle
import Mathlib.Logic.Function.Basic
import Mathlib.Data.List.Basic

namespace NodeFleet

/-! ## Prices that can be used again -/

theorem CachedPrice.usable?_eq_none_iff {price : Option CachedPrice} {lifetime now : Millis} :
    CachedPrice.usable? price lifetime now = none ↔
      ∀ p, price = some p → ¬now - p.readAt ≤ lifetime := by
  cases price <;> simp [CachedPrice.usable?]

theorem CachedPrice.usable?_eq_some_iff {price : Option CachedPrice} {lifetime now : Millis}
    {gwei : Binary64} :
    CachedPrice.usable? price lifetime now = some gwei ↔
      ∃ p, price = some p ∧ now - p.readAt ≤ lifetime ∧ p.gwei = gwei := by
  cases price <;> simp [CachedPrice.usable?]

/-! ## Calls that overlap -/

/-- How far a call for a price has come. -/
inductive PriceCall where
  | asked
  /-- It waits for the feed. -/
  | reading
  /-- It has a price of the feed, which is not kept yet. -/
  | holding (price : CachedPrice)
  | told (result : Result Binary64)

/-- What a call does. -/
inductive PriceDeed where
  | looked (price : Option CachedPrice)
  | read
  | answered (result : Result Binary64)
  | kept (price : CachedPrice)

def PriceDeed.isRead : PriceDeed → Bool
  | .read => true
  | _ => false

/-- What a call did, and when. -/
structure PriceNote where
  time : Millis
  call : Nat
  deed : PriceDeed

/-- One oracle with all calls for its price. -/
structure PriceDesk where
  now : Millis
  price : Option CachedPrice
  calls : Nat → PriceCall
  notes : List PriceNote

/-- What may happen next. -/
inductive PriceMove where
  | wait (time : Millis)
  | look (call : Nat)
  | answer (call : Nat) (result : Result Binary64)
  | keep (call : Nat)

namespace PriceDesk

/-- A desk at which nothing was asked before. -/
def opened (now : Millis) : PriceDesk := ⟨now, none, fun _ => .asked, []⟩

/-- A call does something and comes further. -/
def goes (d : PriceDesk) (c : Nat) (call : PriceCall) (deeds : List PriceDeed) : PriceDesk :=
  { d with
    calls := Function.update d.calls c call
    notes := d.notes ++ deeds.map (⟨d.now, c, ·⟩) }

/-- What follows a move, if it can be made. A price is as old as the answer that it came with,
    whenever it is kept. -/
def step? (lifetime : Millis) (d : PriceDesk) : PriceMove → Option PriceDesk
  | .wait time => some { d with now := d.now + time }
  | .look c =>
    match d.calls c with
    | .asked =>
      match CachedPrice.usable? d.price lifetime d.now with
      | some gwei => some (d.goes c (.told (.ok gwei)) [.looked d.price])
      | none => some (d.goes c .reading [.looked d.price, .read])
    | _ => none
  | .answer c result =>
    match d.calls c with
    | .reading =>
      match result with
      | .ok gwei => some (d.goes c (.holding ⟨gwei, d.now⟩) [.answered (.ok gwei)])
      | .error e => some (d.goes c (.told (.error e)) [.answered (.error e)])
    | _ => none
  | .keep c =>
    match d.calls c with
    | .holding p => some { d.goes c (.told (.ok p.gwei)) [.kept p] with price := some p }
    | _ => none

/-- What follows moves that are made in turn. -/
def run? (lifetime : Millis) (d : PriceDesk) (moves : List PriceMove) : Option PriceDesk :=
  moves.foldlM (step? lifetime) d

/-- What a call did so far. -/
def storyOf (d : PriceDesk) (c : Nat) : List PriceNote := d.notes.filter (·.call == c)

/-- How often a call has read the feed. -/
def readsOf (d : PriceDesk) (c : Nat) : Nat := (d.storyOf c).countP (·.deed.isRead)

/-- How often the feed was read. -/
def reads (d : PriceDesk) : Nat := d.notes.countP (·.deed.isRead)

/-- Some call was answered this price at the moment that it bears. -/
def HasRead (d : PriceDesk) (p : CachedPrice) : Prop :=
  ∃ c, ⟨p.readAt, c, .answered (.ok p.gwei)⟩ ∈ d.notes

variable {lifetime : Millis} {d d' : PriceDesk} {m : PriceMove} {c : Nat}

theorem mem_storyOf {n : PriceNote} : n ∈ d.storyOf c ↔ n ∈ d.notes ∧ n.call = c := by
  simp [storyOf]

@[simp] theorem storyOf_goes_self (d : PriceDesk) (c : Nat) (call : PriceCall)
    (deeds : List PriceDeed) :
    (d.goes c call deeds).storyOf c = d.storyOf c ++ deeds.map (⟨d.now, c, ·⟩) := by
  simp [storyOf, goes]

theorem storyOf_goes_of_ne {c' : Nat} (h : c' ≠ c) (d : PriceDesk) (call : PriceCall)
    (deeds : List PriceDeed) : (d.goes c call deeds).storyOf c' = d.storyOf c' := by
  simp [storyOf, goes, h.symm]

/-- What a move may be, and what it does. -/
theorem step?_cases (h : d.step? lifetime m = some d') :
    (∃ time, m = .wait time ∧ d' = { d with now := d.now + time }) ∨
    (∃ c gwei, m = .look c ∧ d.calls c = .asked ∧
      CachedPrice.usable? d.price lifetime d.now = some gwei ∧
      d' = d.goes c (.told (.ok gwei)) [.looked d.price]) ∨
    (∃ c, m = .look c ∧ d.calls c = .asked ∧
      CachedPrice.usable? d.price lifetime d.now = none ∧
      d' = d.goes c .reading [.looked d.price, .read]) ∨
    (∃ c gwei, m = .answer c (.ok gwei) ∧ d.calls c = .reading ∧
      d' = d.goes c (.holding ⟨gwei, d.now⟩) [.answered (.ok gwei)]) ∨
    (∃ c e, m = .answer c (.error e) ∧ d.calls c = .reading ∧
      d' = d.goes c (.told (.error e)) [.answered (.error e)]) ∨
    (∃ c p, m = .keep c ∧ d.calls c = .holding p ∧
      d' = { d.goes c (.told (.ok p.gwei)) [.kept p] with price := some p }) := by
  cases m with
  | wait time => exact .inl ⟨time, rfl, (Option.some.inj h).symm⟩
  | look c =>
    simp only [step?] at h
    split at h
    · next hc =>
      split at h
      · next gwei hu => exact .inr (.inl ⟨c, gwei, rfl, hc, hu, (Option.some.inj h).symm⟩)
      · next hu => exact .inr (.inr (.inl ⟨c, rfl, hc, hu, (Option.some.inj h).symm⟩))
    · cases h
  | answer c result =>
    simp only [step?] at h
    split at h
    · next hc =>
      cases result with
      | ok gwei => exact .inr (.inr (.inr (.inl ⟨c, gwei, rfl, hc, (Option.some.inj h).symm⟩)))
      | error e =>
        exact .inr (.inr (.inr (.inr (.inl ⟨c, e, rfl, hc, (Option.some.inj h).symm⟩))))
    · cases h
  | keep c =>
    simp only [step?] at h
    split at h
    · next p hc =>
      exact .inr (.inr (.inr (.inr (.inr ⟨c, p, rfl, hc, (Option.some.inj h).symm⟩))))
    · cases h

end PriceDesk

/-! ## What holds of every desk -/

/-- What a call has done that has come so far: it looks once, and is told what it saw or reads
    the feed once. -/
inductive PriceStory (lifetime : Millis) (c : Nat) : PriceCall → List PriceNote → Prop
  | asked : PriceStory lifetime c .asked []
  | fresh {t : Millis} {seen : Option CachedPrice} {gwei : Binary64}
      (h : CachedPrice.usable? seen lifetime t = some gwei) :
      PriceStory lifetime c (.told (.ok gwei)) [⟨t, c, .looked seen⟩]
  | reading {t : Millis} {seen : Option CachedPrice}
      (h : CachedPrice.usable? seen lifetime t = none) :
      PriceStory lifetime c .reading [⟨t, c, .looked seen⟩, ⟨t, c, .read⟩]
  | holding {t : Millis} {seen : Option CachedPrice} {p : CachedPrice}
      (h : CachedPrice.usable? seen lifetime t = none) :
      PriceStory lifetime c (.holding p)
        [⟨t, c, .looked seen⟩, ⟨t, c, .read⟩, ⟨p.readAt, c, .answered (.ok p.gwei)⟩]
  | kept {t t' : Millis} {seen : Option CachedPrice} {p : CachedPrice}
      (h : CachedPrice.usable? seen lifetime t = none) :
      PriceStory lifetime c (.told (.ok p.gwei))
        [⟨t, c, .looked seen⟩, ⟨t, c, .read⟩, ⟨p.readAt, c, .answered (.ok p.gwei)⟩,
          ⟨t', c, .kept p⟩]
  | failed {t t' : Millis} {seen : Option CachedPrice} {e : Error}
      (h : CachedPrice.usable? seen lifetime t = none) :
      PriceStory lifetime c (.told (.error e))
        [⟨t, c, .looked seen⟩, ⟨t, c, .read⟩, ⟨t', c, .answered (.error e)⟩]

namespace PriceStory

variable {lifetime : Millis} {c : Nat} {call : PriceCall} {notes : List PriceNote}

/-- A call reads the feed once if what it sees cannot be used, and else not at all. -/
theorem reads (h : PriceStory lifetime c call notes) {t : Millis} {seen : Option CachedPrice}
    (hlooked : ⟨t, c, .looked seen⟩ ∈ notes) :
    notes.countP (·.deed.isRead) =
      if CachedPrice.usable? seen lifetime t = none then 1 else 0 := by
  cases h <;> simp at hlooked <;> obtain ⟨rfl, rfl⟩ := hlooked <;> simp [PriceDeed.isRead, *]

theorem reads_of_unlooked (h : PriceStory lifetime c call notes)
    (hlooked : ∀ t seen, ⟨t, c, .looked seen⟩ ∉ notes) : notes.countP (·.deed.isRead) = 0 := by
  cases h <;> simp at hlooked ⊢

theorem told {gwei : Binary64} (h : PriceStory lifetime c (.told (.ok gwei)) notes) :
    (∃ t, ⟨t, c, .answered (.ok gwei)⟩ ∈ notes) ∨
    ∃ t seen, ⟨t, c, .looked seen⟩ ∈ notes ∧
      CachedPrice.usable? seen lifetime t = some gwei := by
  cases h with
  | fresh h => exact .inr ⟨_, _, .head _, h⟩
  | kept h => exact .inl ⟨_, .tail _ (.tail _ (.head _))⟩

theorem failed_iff {e : Error} (h : PriceStory lifetime c call notes) :
    call = .told (.error e) ↔ ∃ t, ⟨t, c, .answered (.error e)⟩ ∈ notes := by
  cases h <;> simp [eq_comm]

theorem unkept {e : Error} (h : PriceStory lifetime c (.told (.error e)) notes) (t : Millis)
    (p : CachedPrice) : ⟨t, c, .kept p⟩ ∉ notes := by
  cases h
  simp

end PriceStory

namespace PriceDesk

/-- A desk that calls come to in whatever order. -/
structure Sound (lifetime : Millis) (d : PriceDesk) : Prop where
  story : ∀ c, PriceStory lifetime c (d.calls c) (d.storyOf c)
  past : ∀ n ∈ d.notes, n.time ≤ d.now
  /-- A price that is kept was read, and so was one that a call saw. -/
  price : ∀ p, d.price = some p → d.HasRead p
  seen : ∀ t c p, ⟨t, c, .looked (some p)⟩ ∈ d.notes → p.readAt ≤ t ∧ d.HasRead p

variable {lifetime : Millis} {d d' : PriceDesk} {m : PriceMove} {c : Nat}

theorem HasRead.mono {p : CachedPrice} (h : d.HasRead p) (hnotes : d.notes ⊆ d'.notes) :
    d'.HasRead p := by
  obtain ⟨c, hc⟩ := h
  exact ⟨c, hnotes hc⟩

theorem Sound.readAt_le {p : CachedPrice} (hd : d.Sound lifetime) (h : d.HasRead p) :
    p.readAt ≤ d.now := by
  obtain ⟨c, hc⟩ := h
  exact hd.past _ hc

theorem sound_opened (lifetime now : Millis) : (opened now).Sound lifetime where
  story _ := .asked
  past := by simp [opened]
  price := by simp [opened]
  seen := by simp [opened]

theorem Sound.wait (hd : d.Sound lifetime) (time : Millis) :
    Sound lifetime { d with now := d.now + time } where
  story := hd.story
  past n hn := Nat.le_trans (hd.past n hn) (Nat.le_add_right _ _)
  price := hd.price
  seen := hd.seen

/-- A call that has done more, and sees no price but the kept one. -/
theorem Sound.goes (hd : d.Sound lifetime) {call : PriceCall} {deeds : List PriceDeed}
    (hstory : PriceStory lifetime c call (d.storyOf c ++ deeds.map (⟨d.now, c, ·⟩)))
    (hseen : ∀ p, .looked (some p) ∈ deeds → d.price = some p) :
    (d.goes c call deeds).Sound lifetime := by
  have hnotes : d.notes ⊆ (d.goes c call deeds).notes := List.subset_append_left _ _
  have hnew : ∀ n ∈ (d.goes c call deeds).notes,
      n ∈ d.notes ∨ ∃ deed ∈ deeds, ⟨d.now, c, deed⟩ = n :=
    fun n hn => (List.mem_append.1 hn).imp_right List.mem_map.1
  refine ⟨fun c' => ?_, fun n hn => ?_, fun p hp => (hd.price p hp).mono hnotes, ?_⟩
  · by_cases hc : c' = c
    · subst hc
      rw [storyOf_goes_self]
      simpa [PriceDesk.goes] using hstory
    · rw [storyOf_goes_of_ne hc]
      simpa [PriceDesk.goes, hc] using hd.story c'
  · rcases hnew n hn with hn | ⟨deed, -, rfl⟩
    · exact hd.past n hn
    · exact Nat.le_refl _
  · intro t c' p hn
    rcases hnew _ hn with hn | ⟨deed, hdeed, heq⟩
    · exact ⟨(hd.seen t c' p hn).1, (hd.seen t c' p hn).2.mono hnotes⟩
    · obtain ⟨rfl, -, rfl⟩ := PriceNote.mk.inj heq
      have hread := hd.price p (hseen p hdeed)
      exact ⟨hd.readAt_le hread, hread.mono hnotes⟩

theorem Sound.keep (hd : d.Sound lifetime) {p : CachedPrice} (hp : d.HasRead p) :
    Sound lifetime { d with price := some p } where
  story := hd.story
  past := hd.past
  price p' h := by
    cases h
    exact hp
  seen := hd.seen

/-- **Every move keeps a desk sound.** The story of one call goes on, and the price that is kept
    is one that this call was answered. -/
theorem sound_step (hd : d.Sound lifetime) (h : d.step? lifetime m = some d') :
    d'.Sound lifetime := by
  rcases step?_cases h with ⟨time, rfl, rfl⟩ | ⟨c, gwei, rfl, hc, hu, rfl⟩ | ⟨c, rfl, hc, hu, rfl⟩ |
    ⟨c, gwei, rfl, hc, rfl⟩ | ⟨c, e, rfl, hc, rfl⟩ | ⟨c, p, rfl, hc, rfl⟩
  · exact hd.wait time
  all_goals
    have hstory := hd.story c
    rw [hc] at hstory
    generalize hnotes : d.storyOf c = notes at hstory
  · cases hstory
    refine hd.goes ?_ (by simp [eq_comm])
    rw [hnotes]
    exact .fresh hu
  · cases hstory
    refine hd.goes ?_ (by simp [eq_comm])
    rw [hnotes]
    exact .reading hu
  · cases hstory with
    | reading h =>
      refine hd.goes ?_ (by simp)
      rw [hnotes]
      exact .holding h
  · cases hstory with
    | reading h =>
      refine hd.goes ?_ (by simp)
      rw [hnotes]
      exact .failed h
  · cases hstory with
    | holding h =>
      have hread : d.HasRead p := ⟨c, (mem_storyOf.1 (by rw [hnotes]; simp)).1⟩
      refine Sound.keep (hd.goes ?_ (by simp)) (hread.mono (List.subset_append_left _ _))
      rw [hnotes]
      exact .kept h

theorem run?_cons_eq_some_iff {ms : List PriceMove} :
    d.run? lifetime (m :: ms) = some d' ↔
      ∃ d₁, d.step? lifetime m = some d₁ ∧ d₁.run? lifetime ms = some d' :=
  Option.bind_eq_some_iff

theorem run?_append (lifetime : Millis) (d : PriceDesk) (ms ms' : List PriceMove) :
    d.run? lifetime (ms ++ ms') = (d.run? lifetime ms).bind (·.run? lifetime ms') := by
  rw [run?, List.foldlM_append]
  rfl

/-- What every move keeps is kept by moves in turn. -/
theorem run?_keeps {P : PriceDesk → Prop} {ms : List PriceMove}
    (hstep : ∀ {d m d'}, P d → d.step? lifetime m = some d' → P d') (hd : P d)
    (h : d.run? lifetime ms = some d') : P d' := by
  induction ms generalizing d with
  | nil =>
    cases h
    exact hd
  | cons m ms ih =>
    obtain ⟨d₁, hmove, hrun⟩ := run?_cons_eq_some_iff.1 h
    exact ih (hstep hd hmove) hrun

theorem sound_run {ms : List PriceMove} (hd : d.Sound lifetime) (h : d.run? lifetime ms = some d') :
    d'.Sound lifetime :=
  run?_keeps sound_step hd h

theorem notes_prefix_step (h : d.step? lifetime m = some d') : d.notes <+: d'.notes := by
  rcases step?_cases h with ⟨time, rfl, rfl⟩ | ⟨c, gwei, rfl, -, -, rfl⟩ | ⟨c, rfl, -, -, rfl⟩ |
    ⟨c, gwei, rfl, -, rfl⟩ | ⟨c, e, rfl, -, rfl⟩ | ⟨c, p, rfl, -, rfl⟩
  · exact List.prefix_refl _
  all_goals exact List.prefix_append _ _

/-- Notes are only added. -/
theorem notes_prefix_run {ms : List PriceMove} (h : d.run? lifetime ms = some d') :
    d.notes <+: d'.notes :=
  run?_keeps (P := fun d' => d.notes <+: d'.notes)
    (fun hd hmove => hd.trans (notes_prefix_step hmove)) (List.prefix_refl _) h

/-- What can be said of a desk's prices and calls. -/
structure Tells (lifetime : Millis) (d : PriceDesk) : Prop where
  /-- A price is kept with the moment at which a call was answered it, which is not to come. -/
  price : ∀ p, d.price = some p → p.readAt ≤ d.now ∧ d.HasRead p
  /-- A call that saw no price, or one too old, reads the feed once; another does not read it. -/
  reads : ∀ c t seen, ⟨t, c, .looked seen⟩ ∈ d.notes →
    ((∀ p, seen = some p → lifetime < t - p.readAt) → d.readsOf c = 1) ∧
    (¬(∀ p, seen = some p → lifetime < t - p.readAt) → d.readsOf c = 0)
  unlooked : ∀ c, (∀ t seen, ⟨t, c, .looked seen⟩ ∉ d.notes) → d.readsOf c = 0
  /-- A call that is told a price was answered it, or has seen it when it was not too old. -/
  told : ∀ c gwei, d.calls c = .told (.ok gwei) →
    (∃ t, ⟨t, c, .answered (.ok gwei)⟩ ∈ d.notes) ∨
    ∃ t p, ⟨t, c, .looked (some p)⟩ ∈ d.notes ∧ p.gwei = gwei ∧ d.HasRead p ∧
      p.readAt ≤ t ∧ t - p.readAt ≤ lifetime
  /-- A failure is told to the call that was answered it, and to no other. -/
  failed : ∀ c e, d.calls c = .told (.error e) ↔ ∃ t, ⟨t, c, .answered (.error e)⟩ ∈ d.notes
  /-- A call that was answered a failure keeps no price. -/
  unkept : ∀ c t e, ⟨t, c, .answered (.error e)⟩ ∈ d.notes → ∀ t' p, ⟨t', c, .kept p⟩ ∉ d.notes

theorem Sound.tells (hd : d.Sound lifetime) : d.Tells lifetime := by
  have hmem : ∀ {t c deed}, ⟨t, c, deed⟩ ∈ d.notes → ⟨t, c, deed⟩ ∈ d.storyOf c :=
    fun h => mem_storyOf.2 ⟨h, rfl⟩
  have hfailed : ∀ c e, d.calls c = .told (.error e) ↔
      ∃ t, ⟨t, c, .answered (.error e)⟩ ∈ d.notes := by
    intro c e
    rw [(hd.story c).failed_iff]
    exact exists_congr fun t => ⟨fun h => (mem_storyOf.1 h).1, hmem⟩
  refine ⟨fun p hp => ⟨hd.readAt_le (hd.price p hp), hd.price p hp⟩, fun c t seen h => ?_,
    fun c h => ?_, fun c gwei h => ?_, hfailed, fun c t e h t' p h' => ?_⟩
  · have hreads := (hd.story c).reads (hmem h)
    simp only [CachedPrice.usable?_eq_none_iff, Nat.not_le] at hreads
    exact ⟨fun hstale => hreads.trans (if_pos hstale), fun hfresh => hreads.trans (if_neg hfresh)⟩
  · exact (hd.story c).reads_of_unlooked fun t seen hlooked => h t seen (mem_storyOf.1 hlooked).1
  · have hstory := hd.story c
    rw [h] at hstory
    rcases hstory.told with ⟨t, ht⟩ | ⟨t, seen, ht, husable⟩
    · exact .inl ⟨t, (mem_storyOf.1 ht).1⟩
    · obtain ⟨p, rfl, hage, hgwei⟩ := CachedPrice.usable?_eq_some_iff.1 husable
      have hlooked := (mem_storyOf.1 ht).1
      exact .inr ⟨t, p, hlooked, hgwei, (hd.seen t c p hlooked).2, (hd.seen t c p hlooked).1, hage⟩
  · have hstory := hd.story c
    rw [(hfailed c e).2 ⟨t, h⟩] at hstory
    exact hstory.unkept t' p (hmem h')

/-- Only the keeping of an answer changes the price that is kept. -/
theorem price_step (h : d.step? lifetime m = some d') (hm : ∀ c, m ≠ .keep c) :
    d'.price = d.price := by
  rcases step?_cases h with ⟨time, rfl, rfl⟩ | ⟨c, gwei, rfl, -, -, rfl⟩ | ⟨c, rfl, -, -, rfl⟩ |
    ⟨c, gwei, rfl, -, rfl⟩ | ⟨c, e, rfl, -, rfl⟩ | ⟨c, p, rfl, -, rfl⟩
  any_goals rfl
  exact absurd rfl (hm c)

/-- A failure is told to one call, and nothing else happens. -/
theorem calls_step_of_failure {e : Error} (h : d.step? lifetime (.answer c (.error e)) = some d') :
    d'.calls = Function.update d.calls c (.told (.error e)) := by
  rcases step?_cases h with ⟨_, hm, -⟩ | ⟨_, _, hm, -⟩ | ⟨_, hm, -⟩ | ⟨_, _, hm, -⟩ |
    ⟨c, e, hm, -, rfl⟩ | ⟨_, _, hm, -⟩
  all_goals cases hm
  rfl

end PriceDesk

end NodeFleet

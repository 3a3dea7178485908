/-
  Races over deliveries, as loops that read them one by one.

  * `success?`, `found?`, `complaint?`: what a delivery is to a race; `note` keeps the complaints.
  * `raceFrom_eq`, `raceOptionalFrom_eq`: what the loops come to from any state, read off the
    deliveries that are left. Before it ends, a loop has seen no success; it knows what was said
    so far.
  * `get?_foldl_note`: with distinct names, what is kept for a name is what its delivery said.
  * `ofNodes`: what nodes deliver; `deliveries_perm`: in whatever order their parts end.
  * `le_lastTime_of_mem`, `lastTime_eq`: when the last part has ended, all have.
-/
import NodeFleet.Race
import Mathlib.Data.List.Basic

namespace NodeFleet

/-- What a failure says under the name of a node. -/
def Result.complaint? {α : Type} : Result α → Option String
  | .ok _ => none
  | .error e => some e.nodeMessage

theorem Result.complaint?_eq_some_iff {α : Type} {r : Result α} {text : String} :
    r.complaint? = some text ↔ ∃ e, r = .error e ∧ e.nodeMessage = text := by
  cases r <;> simp [Result.complaint?]

namespace Delivery

variable {α : Type}

/-- What a delivery succeeds with. -/
def success? (d : Delivery α) : Option α := d.result.toOption

/-- What a delivery finds. -/
def found? (d : Delivery (Option α)) : Option α := d.success?.join

/-- What a failing delivery says. -/
def complaint? (d : Delivery α) : Option String := d.result.complaint?

/-- The errors so far once a delivery is read. -/
def note (errors : NodeErrors) (d : Delivery α) : NodeErrors :=
  match d.complaint? with
  | some text => errors.insert d.node text
  | none => errors

theorem success?_eq_some_iff {d : Delivery α} {a : α} : d.success? = some a ↔ d.result = .ok a := by
  cases h : d.result <;> simp [success?, Except.toOption, h]

theorem success?_eq_none_iff {d : Delivery α} : d.success? = none ↔ ∀ a, d.result ≠ .ok a := by
  cases h : d.result <;> simp [success?, Except.toOption, h]

theorem found?_eq_some_iff {d : Delivery (Option α)} {a : α} :
    d.found? = some a ↔ d.result = .ok (some a) := by
  rw [found?, Option.join_eq_some_iff, success?_eq_some_iff]

theorem found?_eq_none_iff {d : Delivery (Option α)} :
    d.found? = none ↔ ∀ a, d.result ≠ .ok (some a) := by
  simp only [Option.eq_none_iff_forall_ne_some, ne_eq, found?_eq_some_iff]

/-! ## The loops -/

theorem raceFrom_eq (operation : String) (ds : List (Delivery α)) (errors : NodeErrors) :
    raceFrom operation errors ds =
      match ds.findSome? success? with
      | some a => .ok a
      | none => .error (.aggregate operation (ds.foldl note errors)) := by
  induction ds generalizing errors with
  | nil => rfl
  | cons d ds ih =>
    cases h : d.result with
    | ok a => simp [raceFrom, h, success?, Except.toOption]
    | error e =>
      simp [raceFrom, h, success?, Except.toOption, note, complaint?, Result.complaint?, ih]

theorem raceOptionalFrom_eq (operation : String) (ds : List (Delivery (Option α)))
    (errors : NodeErrors) (answered : Bool) :
    raceOptionalFrom operation errors answered ds =
      match ds.findSome? found? with
      | some a => .ok (some a)
      | none =>
        if answered || ds.any (·.success?.isSome) then .ok none
        else .error (.aggregate operation (ds.foldl note errors)) := by
  induction ds generalizing errors answered with
  | nil => simp [raceOptionalFrom]
  | cons d ds ih =>
    cases h : d.result with
    | ok a =>
      cases a with
      | some a => simp [raceOptionalFrom, h, found?, success?, Except.toOption]
      | none => simp [raceOptionalFrom, h, found?, success?, Except.toOption, ih]
    | error e =>
      simp [raceOptionalFrom, h, found?, success?, Except.toOption, note, complaint?,
        Result.complaint?, ih]

/-! ## What is kept of the failures -/

/-- **What is kept for a name**, if no two deliveries have the same. -/
theorem get?_foldl_note {ds : List (Delivery α)} (hnd : (ds.map (·.node)).Nodup)
    (errors : NodeErrors) (name text : String) :
    (ds.foldl note errors).get? name = some text ↔
      (∃ d ∈ ds, d.node = name ∧ d.complaint? = some text) ∨
        errors.get? name = some text ∧ ∀ d ∈ ds, d.node = name → d.complaint? = none := by
  induction ds generalizing errors with
  | nil => simp
  | cons d ds ih =>
    rw [List.map_cons, List.nodup_cons] at hnd
    -- the name of `d` is no name of a later delivery
    have hother : d.node = name → ∀ e ∈ ds, e.node ≠ name := fun hd e he hen =>
      hnd.1 (List.mem_map.2 ⟨e, he, hen.trans hd.symm⟩)
    rw [List.foldl_cons, ih hnd.2]
    cases hc : d.complaint? with
    | none =>
      have hnote : note errors d = errors := by simp [note, hc]
      simp [hnote, hc]
    | some said =>
      have hnote : note errors d = errors.insert d.node said := by simp [note, hc]
      rw [hnote, NameMap.get?_insert]
      by_cases hd : d.node = name
      · have hds := hother hd
        constructor
        · rintro (⟨e, he, hen, -⟩ | ⟨h, -⟩)
          · exact absurd hen (hds e he)
          · rw [if_pos hd.symm] at h
            exact Or.inl ⟨d, by simp, hd, hc.trans h⟩
        · rintro (⟨e, he, hen, het⟩ | ⟨-, h⟩)
          · rcases List.mem_cons.1 he with rfl | he
            · rw [if_pos hd.symm]
              exact Or.inr ⟨hc.symm.trans het, fun e he hen => absurd hen (hds e he)⟩
            · exact absurd hen (hds e he)
          · rw [h d (by simp) hd] at hc
            cases hc
      · rw [if_neg (Ne.symm hd)]
        simp [hd]

/-! ## What nodes deliver -/

section
variable {nodes : List Node} {limit : Millis} {attempt : Node → Attempt α}

/-- What is delivered of calls to nodes, in the order of the nodes. -/
def ofNodes (nodes : List Node) (limit : Millis) (attempt : Node → Attempt α) :
    List (Delivery α) :=
  nodes.filterMap fun n => ((attempt n).heard n.name limit).map (⟨n.name, ·⟩)

theorem mem_ofNodes {d : Delivery α} :
    d ∈ ofNodes nodes limit attempt ↔ ∃ n ∈ nodes, n.name = d.node ∧
      (attempt n).heard n.name limit = some d.result := by
  rw [ofNodes, List.mem_filterMap]
  refine exists_congr fun n => and_congr_right fun _ => ?_
  rw [Option.map_eq_some_iff]
  constructor
  · rintro ⟨_, hr, rfl⟩
    exact ⟨rfl, hr⟩
  · rintro ⟨hn, hr⟩
    exact ⟨_, hr, by rw [hn]⟩

/-- No two deliveries have the same name if no two nodes have. -/
theorem nodup_ofNodes (h : (nodes.map (·.name)).Nodup) :
    ((ofNodes nodes limit attempt).map (·.node)).Nodup := by
  refine List.Nodup.sublist ?_ h
  rw [ofNodes]
  induction nodes with
  | nil => simp
  | cons n ns ih =>
    have ih := ih (List.nodup_cons.1 h).2
    cases hn : (attempt n).heard n.name limit with
    | none => simpa [hn] using ih.cons n.name
    | some r => simpa [hn] using ih

/-- The parts of nodes end in some order, and so do they deliver. -/
theorem deliveries_perm {now : Millis} {r : Request} {es : List (Ending r.Answer)}
    (h : es.Perm (nodes.map (·.ending limit now r))) :
    (Ending.deliveries es).Perm (ofNodes nodes limit (·.serve now r)) := by
  have h := h.filterMap (·.delivery)
  rw [List.filterMap_map] at h
  exact h

end

end Delivery

/-! ## When the last part has ended -/

namespace Ending

variable {α : Type}

theorem le_lastTime (now : Millis) (es : List (Ending α)) : now ≤ lastTime now es := by
  unfold lastTime
  induction es generalizing now with
  | nil => exact Nat.le_refl now
  | cons e es ih => exact Nat.le_trans (Nat.le_max_left now e.time) (ih _)

theorem le_lastTime_of_mem {now : Millis} {es : List (Ending α)} {e : Ending α} (h : e ∈ es) :
    e.time ≤ lastTime now es := by
  induction es generalizing now with
  | nil => cases h
  | cons e' es ih =>
    rcases List.mem_cons.1 h with rfl | h
    · exact Nat.le_trans (Nat.le_max_right now e.time) (le_lastTime _ es)
    · exact ih h

/-- The last part ends when one of the parts does, unless there are none. -/
theorem lastTime_eq (now : Millis) (es : List (Ending α)) :
    lastTime now es = now ∨ ∃ e ∈ es, lastTime now es = e.time := by
  unfold lastTime
  induction es generalizing now with
  | nil => exact Or.inl rfl
  | cons e es ih =>
    rw [List.foldl_cons]
    rcases ih (max now e.time) with h | ⟨e', he', h⟩
    · rcases Nat.le_total e.time now with hle | hle
      · exact Or.inl (h.trans (Nat.max_eq_left hle))
      · exact Or.inr ⟨e, List.mem_cons_self, h.trans (Nat.max_eq_right hle)⟩
    · exact Or.inr ⟨e', List.mem_cons_of_mem e he', h⟩

end Ending

end NodeFleet

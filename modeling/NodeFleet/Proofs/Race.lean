/-
  Races between the nodes of a client, whatever order their results come in.

  * `Client.Delivers`: the orders in which the results of the nodes can be delivered;
    `Client.Hears`: some node is heard with a result; `Client.causes`: what is said of the nodes
    that fail.
  * `race_earliest_success`, `raceOptional_earliest_find`: what the two races come to.
  * `aggregate_accounts`: which nodes the error of a race speaks of. A node whose call dies is
    missing from it, and nothing else is.
  * `ask_delivers`: the reads of a client are such races; `delivers_endings`: their order is the
    order of time.
-/
import NodeFleet.Client
import NodeFleet.Proofs.Delivery
import Mathlib.Data.List.Nodup

namespace NodeFleet

namespace Client

section
variable {α : Type} (c : Client) (attempt : Node → Attempt α)

/-- A node is heard with a result. -/
def Hears (result : Result α) : Prop :=
  ∃ n ∈ c.nodeList, (attempt n).heard n.name c.callTimeout = some result

/-- What the nodes deliver, in the order of their names. -/
def deliveries : List (Delivery α) :=
  c.nodeList.filterMap fun n => ((attempt n).heard n.name c.callTimeout).map (⟨n.name, ·⟩)

/-- The orders in which the results of the nodes can be delivered. -/
def Delivers (ds : List (Delivery α)) : Prop := ds.Perm (c.deliveries attempt)

/-- What is said of the nodes that fail. -/
def causes : NodeErrors :=
  c.nodes.filterMap fun name n => ((attempt n).heard name c.callTimeout).bind Result.complaint?

end

/-! ## The nodes of a client -/

theorem mem_nodeList {c : Client} {n : Node} : n ∈ c.nodeList ↔ (n.name, n) ∈ c.nodes.entries := by
  constructor
  · intro h
    obtain ⟨⟨name, n⟩, he, rfl⟩ := List.mem_map.1 h
    rw [c.named _ he]
    exact he
  · exact fun h => List.mem_map.2 ⟨_, h, rfl⟩

theorem map_name_nodeList (c : Client) : c.nodeList.map (·.name) = c.nodes.keys := by
  rw [nodeList, List.map_map]
  exact List.map_congr_left fun e he => c.named e he

theorem nodup_names (c : Client) : (c.nodeList.map (·.name)).Nodup :=
  c.map_name_nodeList ▸ c.nodes.nodup_keys

/-- A client of nodes that stand in the order of their names. -/
def ofSorted (nodes : List Node) (h : nodes.Pairwise (·.name < ·.name)) : Client where
  chain := .of .ropsten
  nodes := ⟨nodes.map fun n => (n.name, n), List.pairwise_map.2 h⟩
  named := by simp
  callTimeout := defaultCallTimeout
  oracle := .ofSource .nodes
  interfaces := .ofTable []

section
variable {α : Type} {c : Client} {attempt : Node → Attempt α} {ds : List (Delivery α)}

theorem Delivers.mem_iff (h : c.Delivers attempt ds) {d : Delivery α} :
    d ∈ ds ↔ ∃ n ∈ c.nodeList, n.name = d.node ∧
      (attempt n).heard n.name c.callTimeout = some d.result :=
  (List.Perm.mem_iff h).trans Delivery.mem_ofNodes

theorem Delivers.hears_iff (h : c.Delivers attempt ds) {result : Result α} :
    c.Hears attempt result ↔ ∃ d ∈ ds, d.result = result := by
  constructor
  · rintro ⟨n, hn, hr⟩
    exact ⟨⟨n.name, result⟩, h.mem_iff.2 ⟨n, hn, rfl, hr⟩, rfl⟩
  · rintro ⟨d, hd, rfl⟩
    obtain ⟨n, hn, -, hr⟩ := h.mem_iff.1 hd
    exact ⟨n, hn, hr⟩

/-- No two deliveries have the same name. -/
theorem Delivers.nodup (h : c.Delivers attempt ds) : (ds.map (·.node)).Nodup :=
  (h.map _).nodup_iff.2 (Delivery.nodup_ofNodes c.nodup_names)

theorem get?_causes {name text : String} :
    (c.causes attempt).get? name = some text ↔ ∃ n ∈ c.nodeList, n.name = name ∧
      ∃ e, (attempt n).heard n.name c.callTimeout = some (.error e) ∧ e.nodeMessage = text := by
  simp only [causes, NameMap.get?_filterMap_eq_some_iff, Option.bind_eq_some_iff,
    Result.complaint?_eq_some_iff]
  constructor
  · rintro ⟨n, hn, _, hr, e, rfl, he⟩
    obtain rfl : n.name = name := c.named _ hn
    exact ⟨n, mem_nodeList.2 hn, rfl, e, hr, he⟩
  · rintro ⟨n, hn, rfl, e, hr, he⟩
    exact ⟨n, mem_nodeList.1 hn, _, hr, e, rfl, he⟩

theorem Delivers.get?_causes_iff (h : c.Delivers attempt ds) {name text : String} :
    (c.causes attempt).get? name = some text ↔
      ∃ d ∈ ds, d.node = name ∧ ∃ e, d.result = .error e ∧ e.nodeMessage = text := by
  rw [get?_causes]
  constructor
  · rintro ⟨n, hn, hname, e, hr, he⟩
    exact ⟨⟨n.name, .error e⟩, h.mem_iff.2 ⟨n, hn, rfl, hr⟩, hname, e, rfl, he⟩
  · rintro ⟨d, hd, hname, e, hr, he⟩
    obtain ⟨n, hn, hnd, hheard⟩ := h.mem_iff.1 hd
    exact ⟨n, hn, hnd.trans hname, e, hr ▸ hheard, he⟩

/-- **The order of deliveries leaves no trace in the errors.** -/
theorem Delivers.foldl_note (h : c.Delivers attempt ds) :
    ds.foldl Delivery.note .empty = c.causes attempt := by
  refine NameMap.ext_get? fun name => Option.ext fun text => ?_
  rw [Delivery.get?_foldl_note h.nodup, h.get?_causes_iff]
  simp [Delivery.complaint?, Result.complaint?_eq_some_iff]

theorem Delivers.race_eq (h : c.Delivers attempt ds) (operation : String) :
    Delivery.race operation ds =
      match ds.findSome? Delivery.success? with
      | some a => .ok a
      | none => .error (.aggregate operation (c.causes attempt)) := by
  have hrace := Delivery.raceFrom_eq operation ds .empty
  rw [h.foldl_note] at hrace
  exact hrace

theorem Delivers.raceOptional_eq {attempt : Node → Attempt (Option α)}
    {ds : List (Delivery (Option α))} (h : c.Delivers attempt ds) (operation : String) :
    Delivery.raceOptional operation ds =
      match ds.findSome? Delivery.found? with
      | some a => .ok (some a)
      | none =>
        if ds.any (·.success?.isSome) then .ok none
        else .error (.aggregate operation (c.causes attempt)) := by
  have hrace := Delivery.raceOptionalFrom_eq operation ds .empty false
  rw [h.foldl_note, Bool.false_or] at hrace
  exact hrace

theorem Delivers.findSome?_success (h : c.Delivers attempt ds) :
    ds.findSome? Delivery.success? = none ↔ ∀ a, ¬c.Hears attempt (.ok a) := by
  simp only [List.findSome?_eq_none_iff, Delivery.success?_eq_none_iff, h.hears_iff]
  exact ⟨fun hd a ⟨d, hmem, ha⟩ => hd d hmem a ha, fun hd d hmem a ha => hd a ⟨d, hmem, ha⟩⟩

theorem Delivers.findSome?_found {attempt : Node → Attempt (Option α)}
    {ds : List (Delivery (Option α))} (h : c.Delivers attempt ds) :
    ds.findSome? Delivery.found? = none ↔ ∀ a, ¬c.Hears attempt (.ok (some a)) := by
  simp only [List.findSome?_eq_none_iff, Delivery.found?_eq_none_iff, h.hears_iff]
  exact ⟨fun hd a ⟨d, hmem, ha⟩ => hd d hmem a ha, fun hd d hmem a ha => hd a ⟨d, hmem, ha⟩⟩

theorem Delivers.any_success (h : c.Delivers attempt ds) :
    ds.any (·.success?.isSome) = true ↔ ∃ a, c.Hears attempt (.ok a) := by
  simp only [List.any_eq_true, Option.isSome_iff_exists, Delivery.success?_eq_some_iff,
    h.hears_iff]
  exact ⟨fun ⟨d, hmem, a, ha⟩ => ⟨a, d, hmem, ha⟩, fun ⟨a, d, hmem, ha⟩ => ⟨d, hmem, a, ha⟩⟩

/-- Without nodes nothing is said. -/
theorem causes_eq_empty (h : c.nodeList = []) : c.causes attempt = .empty := by
  refine NameMap.ext_get? fun name => Option.ext fun text => ?_
  simp [get?_causes, h]

end

/-! ## The reads of a client -/

theorem delivers_endings (c : Client) (now : Millis) (r : Request) :
    c.Delivers (·.serve now r)
      (Ending.deliveries (endings c.nodeList c.callTimeout now r)) :=
  Delivery.deliveries_perm (List.mergeSort_perm ..)

theorem outcome_ask {α : Type} (c : Client) (r : Request) (wins : r.Answer → Bool)
    (settle : List (Delivery r.Answer) → Result α) (s : Session) :
    (c.ask r wins settle).outcome s =
      (settle (Ending.deliveries (endings c.nodeList c.callTimeout s.now r)),
        { s.record (c.nodes.keys.map (.asked · r)) with
          now := Ending.overAt wins s.now (endings c.nodeList c.callTimeout s.now r) }) :=
  rfl

/-- **What a client is asked is settled by what its nodes deliver**, in one of the orders in which
    they can. -/
theorem ask_delivers {α : Type} (c : Client) (r : Request) (wins : r.Answer → Bool)
    (settle : List (Delivery r.Answer) → Result α) (s : Session) :
    ∃ ds, c.Delivers (·.serve s.now r) ds ∧ ((c.ask r wins settle).outcome s).1 = settle ds :=
  ⟨_, c.delivers_endings s.now r, congrArg Prod.fst (c.outcome_ask r wins settle s)⟩

/-- A client of one node is told what this node answers at once. -/
theorem outcome_first_of_single {n : Node} {r : Request} {s : Session} {a : r.Answer}
    (h : n.serve s.now r = ⟨0, some (.ok a)⟩) (operation : String) :
    ∃ s', ((ofSorted [n] (List.pairwise_singleton _ _)).first operation r).outcome s =
      (.ok a, s') := by
  obtain ⟨ds, hds, htold⟩ := (ofSorted [n] (List.pairwise_singleton _ _)).ask_delivers r
    (fun _ => true) (Delivery.race operation) s
  refine ⟨_, Prod.ext (htold.trans ?_) rfl⟩
  have hanswer : (n.serve s.now r).heard n.name defaultCallTimeout = some (.ok a) := by rw [h]; rfl
  have hdeliveries : (ofSorted [n] (List.pairwise_singleton _ _)).deliveries (·.serve s.now r) =
      [⟨n.name, .ok a⟩] := by
    simp [deliveries, nodeList, ofSorted, hanswer]
  rw [Delivers, hdeliveries] at hds
  rw [List.perm_singleton.1 hds]
  rfl

end Client

/-! ## What races come to -/

section
variable {α : Type} {c : Client} {attempt : Node → Attempt α} {ds : List (Delivery α)}

theorem race_eq_ok_iff {operation : String} {a : α} :
    Delivery.race operation ds = .ok a ↔ ∃ before d after, ds = before ++ d :: after ∧
      d.result = .ok a ∧ ∀ b ∈ before, ∀ w, b.result ≠ .ok w := by
  simp only [← Delivery.success?_eq_some_iff, ← Delivery.success?_eq_none_iff,
    ← List.findSome?_eq_some_iff]
  rw [Delivery.race, Delivery.raceFrom_eq]
  cases ds.findSome? Delivery.success? <;> simp

/-- Nothing that comes after a success matters. -/
theorem race_append_congr {operation : String} {before after after' : List (Delivery α)}
    {d : Delivery α} {a : α} (h : d.result = .ok a) :
    Delivery.race operation (before ++ d :: after) =
      Delivery.race operation (before ++ d :: after') := by
  have hd : d.success? = some a := Delivery.success?_eq_some_iff.2 h
  have hfind : ∀ rest, (before ++ d :: rest).findSome? Delivery.success? =
      (before.findSome? Delivery.success?).or (some a) := fun rest => by
    rw [List.findSome?_append, List.findSome?_cons_of_isSome (by simp [hd]), hd]
  simp only [Delivery.race, Delivery.raceFrom_eq, hfind]
  cases before.findSome? Delivery.success? <;> rfl

/-- A race fails if nobody succeeds. -/
theorem race_eq_error_iff (h : c.Delivers attempt ds) {operation : String} {e : Error} :
    Delivery.race operation ds = .error e ↔
      (∀ a, ¬c.Hears attempt (.ok a)) ∧ e = .aggregate operation (c.causes attempt) := by
  rw [h.race_eq, ← h.findSome?_success]
  cases ds.findSome? Delivery.success? <;> simp [eq_comm]

theorem race_isOk_iff (h : c.Delivers attempt ds) (operation : String) :
    (∃ a, Delivery.race operation ds = .ok a) ↔ ∃ a, c.Hears attempt (.ok a) := by
  rw [← not_iff_not, not_exists, not_exists]
  refine Iff.trans ?_ (h.findSome?_success)
  rw [h.race_eq]
  cases ds.findSome? Delivery.success? <;> simp

/-- **A race is won by the earliest success**, and what is delivered after it cannot change that.
    A race that nobody wins fails with what the failing nodes said, in whatever order they said
    it. Without nodes nobody is asked. -/
theorem race_earliest_success (c : Client) (operation : String) (attempt : Node → Attempt α)
    {ds : List (Delivery α)} (h : c.Delivers attempt ds) :
    ((∃ a, Delivery.race operation ds = .ok a) ↔ ∃ a, c.Hears attempt (.ok a)) ∧
    (∀ a, Delivery.race operation ds = .ok a ↔ ∃ before d after, ds = before ++ d :: after ∧
      d.result = .ok a ∧ ∀ b ∈ before, ∀ w, b.result ≠ .ok w) ∧
    (∀ before d after after' a, ds = before ++ d :: after → d.result = .ok a →
      Delivery.race operation (before ++ d :: after') = Delivery.race operation ds) ∧
    ((∀ a, ¬c.Hears attempt (.ok a)) →
      Delivery.race operation ds = .error (.aggregate operation (c.causes attempt)) ∧
      ∀ name text, (c.causes attempt).get? name = some text ↔
        ∃ d ∈ ds, d.node = name ∧ ∃ e, d.result = .error e ∧ e.nodeMessage = text) ∧
    (c.nodeList = [] → ∀ (r : Request) (s : Session),
      (c.first operation r).outcome s = (.error (.aggregate operation .empty), s)) := by
  refine ⟨race_isOk_iff h operation, fun a => race_eq_ok_iff, ?_, fun hnone => ⟨?_, fun name text =>
    h.get?_causes_iff⟩, fun hnil r s => ?_⟩
  · rintro before d after after' a rfl hd
    exact race_append_congr hd
  · exact (race_eq_error_iff h).2 ⟨hnone, rfl⟩
  · have hkeys : c.nodes.keys = [] := by rw [← c.map_name_nodeList, hnil, List.map_nil]
    rw [Client.first, Client.outcome_ask, hnil, hkeys]
    simp [endings, Ending.deliveries, Delivery.race, Delivery.raceFrom, Ending.overAt,
      Ending.lastTime, Session.record]

end

/-- A node whose calls all die. -/
def Node.dying (name : String) : Node := ⟨name, fun _ _ => ⟨0, none⟩⟩

/-- A client of three nodes. -/
def Client.trio : Client :=
  .ofSorted [.dying "a", .dying "b", .dying "c"] (by decide)

/-- A failure comes first, then the success of the third node; the second node hangs. -/
theorem race_earliest_success_of_third :
    let attempt : Node → Attempt Nat := fun n =>
      if n.name = "a" then ⟨0, some (.error (.transport "down"))⟩
      else if n.name = "b" then ⟨5000, some (.ok 1)⟩ else ⟨9, some (.ok 2)⟩
    let ds := [⟨"a", .error (.transport "down")⟩, ⟨"c", .ok 2⟩, ⟨"b", .error (timedOut "b" 4000)⟩]
    Client.trio.Delivers attempt ds ∧ Delivery.race "get_balance" ds = .ok 2 := by
  intro attempt ds
  have h : Client.trio.Delivers attempt ds := .cons _ (.swap ..)
  exact ⟨h, ((race_earliest_success _ "get_balance" attempt h).2.1 2).2
    ⟨[ds[0]], _, [ds[2]], rfl, rfl, by simp [ds]⟩⟩

section
variable {α : Type} {c : Client} {attempt : Node → Attempt (Option α)}
  {ds : List (Delivery (Option α))}

theorem raceOptional_eq_some_iff {operation : String} {a : α} :
    Delivery.raceOptional operation ds = .ok (some a) ↔ ∃ before d after,
      ds = before ++ d :: after ∧ d.result = .ok (some a) ∧
        ∀ b ∈ before, ∀ w, b.result ≠ .ok (some w) := by
  simp only [← Delivery.found?_eq_some_iff, ← Delivery.found?_eq_none_iff,
    ← List.findSome?_eq_some_iff]
  rw [Delivery.raceOptional, Delivery.raceOptionalFrom_eq]
  cases ds.findSome? Delivery.found? with
  | some b => simp
  | none => split_ifs <;> simp

theorem raceOptional_isSome_iff (h : c.Delivers attempt ds) (operation : String) :
    (∃ a, Delivery.raceOptional operation ds = .ok (some a)) ↔
      ∃ a, c.Hears attempt (.ok (some a)) := by
  rw [← not_iff_not, not_exists, not_exists]
  refine Iff.trans ?_ (h.findSome?_found)
  rw [h.raceOptional_eq]
  cases ds.findSome? Delivery.found? with
  | some a => simp
  | none => dsimp only; split_ifs <;> simp

/-- What a look-up finds, some node found. -/
theorem raceOptional_hears (h : c.Delivers attempt ds) {operation : String} {a : α}
    (hfound : Delivery.raceOptional operation ds = .ok (some a)) :
    c.Hears attempt (.ok (some a)) := by
  obtain ⟨before, d, after, rfl, hd, -⟩ := raceOptional_eq_some_iff.1 hfound
  exact h.hears_iff.2 ⟨d, by simp, hd⟩

/-- If nobody finds anything, whoever succeeds says so. -/
theorem any_success_iff (h : c.Delivers attempt ds)
    (hnone : ∀ a, ¬c.Hears attempt (.ok (some a))) :
    ds.any (·.success?.isSome) = true ↔ c.Hears attempt (.ok none) := by
  rw [h.any_success]
  refine ⟨fun ⟨o, ho⟩ => ?_, fun ho => ⟨none, ho⟩⟩
  cases o with
  | none => exact ho
  | some a => exact absurd ho (hnone a)

theorem raceOptional_eq_none_iff (h : c.Delivers attempt ds) {operation : String} :
    Delivery.raceOptional operation ds = .ok none ↔
      (∀ a, ¬c.Hears attempt (.ok (some a))) ∧ c.Hears attempt (.ok none) := by
  rw [h.raceOptional_eq, ← h.findSome?_found]
  cases hfind : ds.findSome? Delivery.found? with
  | some b => simp
  | none =>
    rw [← any_success_iff h (h.findSome?_found.1 hfind)]
    dsimp only
    split_ifs with hany <;> simp [hany]

/-- A look-up fails if nobody answers. -/
theorem raceOptional_eq_error_iff (h : c.Delivers attempt ds) {operation : String} {e : Error} :
    Delivery.raceOptional operation ds = .error e ↔
      (∀ o, ¬c.Hears attempt (.ok o)) ∧ e = .aggregate operation (c.causes attempt) := by
  have hall : (∀ o, ¬c.Hears attempt (.ok o)) ↔
      (∀ a, ¬c.Hears attempt (.ok (some a))) ∧ ¬c.Hears attempt (.ok none) :=
    ⟨fun hnone => ⟨fun a => hnone (some a), hnone none⟩, fun hnone o =>
      match o with
      | none => hnone.2
      | some a => hnone.1 a⟩
  rw [h.raceOptional_eq, hall, ← h.findSome?_found]
  cases hfind : ds.findSome? Delivery.found? with
  | some b => simp
  | none =>
    rw [← any_success_iff h (h.findSome?_found.1 hfind)]
    dsimp only
    split_ifs with hany <;> simp [hany, eq_comm]

/-- **A look-up is won by the earliest node that finds something**, whoever failed or found nothing
    before. If nobody finds anything, one node that says so is enough for that answer; otherwise
    the look-up fails with what the failing nodes said, in whatever order they said it. -/
theorem raceOptional_earliest_find (c : Client) (operation : String)
    (attempt : Node → Attempt (Option α)) {ds : List (Delivery (Option α))}
    (h : c.Delivers attempt ds) :
    ((∃ a, Delivery.raceOptional operation ds = .ok (some a)) ↔
      ∃ a, c.Hears attempt (.ok (some a))) ∧
    (∀ a, Delivery.raceOptional operation ds = .ok (some a) ↔ ∃ before d after,
      ds = before ++ d :: after ∧ d.result = .ok (some a) ∧
        ∀ b ∈ before, ∀ w, b.result ≠ .ok (some w)) ∧
    (Delivery.raceOptional operation ds = .ok none ↔
      (∀ a, ¬c.Hears attempt (.ok (some a))) ∧ c.Hears attempt (.ok none)) ∧
    ((∀ o, ¬c.Hears attempt (.ok o)) →
      Delivery.raceOptional operation ds = .error (.aggregate operation (c.causes attempt)) ∧
      ∀ name text, (c.causes attempt).get? name = some text ↔
        ∃ d ∈ ds, d.node = name ∧ ∃ e, d.result = .error e ∧ e.nodeMessage = text) ∧
    (c.nodeList = [] →
      Delivery.raceOptional operation ds = .error (.aggregate operation .empty)) := by
  refine ⟨raceOptional_isSome_iff h operation, fun a => raceOptional_eq_some_iff,
    raceOptional_eq_none_iff h, fun hnone => ⟨(raceOptional_eq_error_iff h).2 ⟨hnone, rfl⟩,
      fun name text => h.get?_causes_iff⟩, fun hnil => ?_⟩
  have hnone : ∀ o, ¬c.Hears attempt (.ok o) := fun o ⟨n, hn, _⟩ => by
    rw [hnil] at hn
    cases hn
  rw [(raceOptional_eq_error_iff h).2 ⟨hnone, rfl⟩, Client.causes_eq_empty hnil]

end

/-- The first node finds nothing, the second fails, the third finds something. -/
theorem raceOptional_earliest_find_of_third :
    let attempt : Node → Attempt (Option Nat) := fun n =>
      if n.name = "a" then ⟨0, some (.ok none)⟩
      else if n.name = "b" then ⟨0, some (.error (.transport "down"))⟩
      else ⟨9, some (.ok (some 2))⟩
    let ds := [⟨"b", .error (.transport "down")⟩, ⟨"a", .ok none⟩, ⟨"c", .ok (some 2)⟩]
    Client.trio.Delivers attempt ds ∧
      Delivery.raceOptional "transaction_by_hash" ds = .ok (some 2) := by
  intro attempt ds
  have h : Client.trio.Delivers attempt ds := .swap ..
  exact ⟨h, ((raceOptional_earliest_find _ "transaction_by_hash" attempt h).2.1 2).2
    ⟨[ds[0], ds[1]], _, [], rfl, rfl, by simp [ds]⟩⟩

/-! ## Which nodes an error speaks of -/

/-- The call comes to nothing within the limit. -/
def Attempt.Dies {α : Type} (a : Attempt α) (limit : Millis) : Prop :=
  a.delay ≤ limit ∧ a.value = none

theorem Attempt.heard_eq_none_iff {α : Type} {a : Attempt α} {node : String} {limit : Millis} :
    a.heard node limit = none ↔ a.Dies limit := by
  unfold Attempt.heard Attempt.Dies
  split_ifs with h <;> simp [h]

theorem NodeErrors.message_eq_iff {errors : NodeErrors} :
    errors.message = "no nodes configured" ↔ errors.isEmpty = true := by
  unfold NodeErrors.message
  split_ifs with h
  · simp [h]
  · refine iff_of_false (fun heq => ?_) h
    have hchars := congrArg String.toList heq
    simp at hchars

section
variable {α : Type} {c : Client} {attempt : Node → Attempt α} {ds : List (Delivery α)}

/-- Errors that speak of exactly the nodes whose calls do not die, of each with its own cause. -/
structure Client.Accounts (c : Client) (attempt : Node → Attempt α) (errors : NodeErrors) :
    Prop where
  cause : ∀ n ∈ c.nodeList, ∀ text, errors.get? n.name = some text ↔
    ∃ e, (attempt n).heard n.name c.callTimeout = some (.error e) ∧ e.nodeMessage = text
  keys : errors.keys = (c.nodeList.filter fun n =>
    ((attempt n).heard n.name c.callTimeout).isSome).map (·.name)
  complete : errors.keys = c.nodeList.map (·.name) ↔
    ∀ n ∈ c.nodeList, ¬(attempt n).Dies c.callTimeout
  empty : errors.isEmpty = true ↔ ∀ n ∈ c.nodeList, (attempt n).Dies c.callTimeout
  message : errors.message = "no nodes configured" ↔
    ∀ n ∈ c.nodeList, (attempt n).Dies c.callTimeout

theorem Client.get?_causes_name {n : Node} (hn : n ∈ c.nodeList) {text : String} :
    (c.causes attempt).get? n.name = some text ↔
      ∃ e, (attempt n).heard n.name c.callTimeout = some (.error e) ∧ e.nodeMessage = text := by
  rw [Client.get?_causes]
  constructor
  · rintro ⟨m, hm, hname, h⟩
    rwa [List.inj_on_of_nodup_map c.nodup_names hm hn hname] at h
  · exact fun h => ⟨n, hn, rfl, h⟩

/-- If nobody succeeds, whoever is heard is heard to fail. -/
theorem Client.keys_causes (hnone : ∀ a, ¬c.Hears attempt (.ok a)) :
    (c.causes attempt).keys = (c.nodeList.filter fun n =>
      ((attempt n).heard n.name c.callTimeout).isSome).map (·.name) := by
  rw [Client.causes, NameMap.keys_filterMap, Client.nodeList, List.filter_map, List.map_map]
  have hfilter : c.nodes.entries.filter (fun e =>
      (((attempt e.2).heard e.1 c.callTimeout).bind Result.complaint?).isSome) =
      c.nodes.entries.filter ((fun n =>
        ((attempt n).heard n.name c.callTimeout).isSome) ∘ (·.2)) := by
    refine List.filter_congr fun e he => ?_
    simp only [Function.comp_apply, c.named e he]
    cases hr : (attempt e.2).heard e.1 c.callTimeout with
    | none => rfl
    | some r =>
      cases r with
      | error err => rfl
      | ok a =>
        refine absurd ⟨e.2, List.mem_map_of_mem he, ?_⟩ (hnone a)
        rw [c.named e he, hr]
  rw [hfilter]
  exact List.map_congr_left fun e he => (c.named e (List.mem_of_mem_filter he)).symm

theorem Client.accounts_causes (hnone : ∀ a, ¬c.Hears attempt (.ok a)) :
    c.Accounts attempt (c.causes attempt) := by
  have hkeys := Client.keys_causes hnone
  have hempty : (c.causes attempt).isEmpty = true ↔
      ∀ n ∈ c.nodeList, (attempt n).Dies c.callTimeout := by
    have hnil : (c.causes attempt).isEmpty = true ↔ (c.causes attempt).keys = [] := by
      rw [NameMap.isEmpty, NameMap.keys, List.isEmpty_iff, List.map_eq_nil_iff]
    rw [hnil, hkeys, List.map_eq_nil_iff, List.filter_eq_nil_iff]
    simp only [Option.not_isSome_iff_eq_none, Attempt.heard_eq_none_iff]
  refine ⟨fun n hn text => Client.get?_causes_name hn, hkeys, ?_, hempty,
    NodeErrors.message_eq_iff.trans hempty⟩
  constructor
  · intro h n hn hdies
    have hlen := congrArg List.length (hkeys.symm.trans h)
    rw [List.length_map, List.length_map, List.length_filter_eq_length_iff] at hlen
    have hsome := hlen n hn
    rw [Attempt.heard_eq_none_iff.2 hdies] at hsome
    cases hsome
  · intro h
    rw [hkeys, List.filter_eq_self.2]
    intro n hn
    rw [← Option.not_isNone, Bool.not_eq_true', ← Bool.not_eq_true, Option.isNone_iff_eq_none,
      Attempt.heard_eq_none_iff]
    exact h n hn

/-- **The error of a race speaks of exactly the nodes whose calls did not die**, of each with its
    own cause. It speaks of every node unless a call died, and of none only if all of them died. -/
theorem aggregate_accounts (c : Client) (operation : String) (attempt : Node → Attempt α)
    (lookup : Node → Attempt (Option α)) :
    (∀ ds e, c.Delivers attempt ds → Delivery.race operation ds = .error e →
      ∃ errors, e = .aggregate operation errors ∧ c.Accounts attempt errors) ∧
    (∀ ds e, c.Delivers lookup ds → Delivery.raceOptional operation ds = .error e →
      ∃ errors, e = .aggregate operation errors ∧ c.Accounts lookup errors) := by
  constructor
  · intro ds e h he
    obtain ⟨hnone, rfl⟩ := (race_eq_error_iff h).1 he
    exact ⟨_, rfl, Client.accounts_causes hnone⟩
  · intro ds e h he
    obtain ⟨hnone, rfl⟩ := (raceOptional_eq_error_iff h).1 he
    exact ⟨_, rfl, Client.accounts_causes hnone⟩

end

/-- One call dies and two nodes fail: the error speaks of the two. -/
theorem aggregate_accounts_for_two :
    let attempt : Node → Attempt Nat := fun n =>
      if n.name = "a" then ⟨0, none⟩ else ⟨0, some (.error (.provider n.name "down"))⟩
    ∃ errors, Delivery.race "get_balance" (Client.trio.deliveries attempt) =
        .error (.aggregate "get_balance" errors) ∧
      errors.keys = ["b", "c"] ∧ errors.get? "c" = some "down" := by
  intro attempt
  obtain ⟨errors, he, haccounts⟩ := (aggregate_accounts .trio "get_balance" attempt
    fun _ => (⟨0, none⟩ : Attempt (Option Nat))).1 (Client.trio.deliveries attempt) _ (.refl _) rfl
  cases he
  exact ⟨_, rfl, haccounts.keys, (haccounts.cause (.dying "c") (by simp [Client.trio,
    Client.nodeList, Client.ofSorted]) "down").2 ⟨_, rfl, rfl⟩⟩

/-- Where the only node's call dies, the error says that there are no nodes. -/
theorem no_entry_for_dead_call :
    let c : Client := .ofSorted [.dying "a"] (List.pairwise_singleton _ _)
    ((c.first "get_balance" (.balance Address.zero)).outcome .start).1 =
        .error (.aggregate "get_balance" .empty) ∧
      ((c.transaction (Hash.ofKeccak [])).outcome .start).1 =
        .error (.aggregate "transaction_by_hash" .empty) ∧
      c.nodeList.map (·.name) = ["a"] ∧ NameMap.keys (.empty : NodeErrors) = [] ∧
      (Error.aggregate "get_balance" .empty).message =
        "Redundant call get_balance failed, no nodes configured" := by
  intro c
  have hsilent : ∀ {α : Type} r wins (settle : List (Delivery (Request.Answer r)) → Result α),
      ((c.ask r wins settle).outcome .start).1 = settle [] := by
    intro α r wins settle
    obtain ⟨ds, hds, h⟩ := c.ask_delivers r wins settle .start
    rw [h, List.perm_nil.1 hds]
  exact ⟨hsilent _ _ _, hsilent _ _ _, rfl, rfl, rfl⟩

end NodeFleet

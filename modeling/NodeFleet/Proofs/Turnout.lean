/-
  How many nodes take bytes that are sent to all of them, how many refuse them, and how many die.

  * `Broadcaster.takers`, `Broadcaster.refusers`, `Broadcaster.casualties`: the nodes of each kind.
    Every node is of one of them (`length_nodes_eq`).
  * `Completes.countP_accepted`, `Completes.keys_perm`: in whatever order the parts of the nodes
    end, the acceptances that are counted are the takers, and the entries are the refusers.
  * `BroadcastOutcome.Accounts`: an outcome that accounts for every node but the casualties.
  * `sendRaw_accounts`: every outcome does.
-/
import NodeFleet.Proofs.Broadcast
import NodeFleet.Proofs.Race

namespace NodeFleet

@[simp] theorem Result.toBool_ok {α : Type} (a : α) : Except.toBool (.ok a : Result α) = true := rfl

@[simp] theorem Result.toBool_error {α : Type} (e : Error) :
    Except.toBool (.error e : Result α) = false :=
  rfl

namespace Broadcaster

section
variable (b : Broadcaster) (now : Millis) (raw : Bytes)

/-- What is heard of a node that is sent bytes. -/
def heardOf (n : Node) : Option (Result Hash) :=
  (n.serve now (.sendRaw raw)).heard n.name b.callTimeout

/-- The nodes that take the bytes within their time. -/
def takers : List Node := b.nodes.filter fun n => (b.heardOf now raw n).any (·.toBool)

/-- The nodes that refuse the bytes or are out of time. -/
def refusers : List Node := b.nodes.filter fun n => (b.heardOf now raw n).any (!·.toBool)

/-- The nodes whose call dies. -/
def casualties : List Node := b.nodes.filter fun n => (b.heardOf now raw n).isNone

end

variable {b : Broadcaster} {now : Millis} {raw : Bytes} {n : Node}

theorem mem_takers : n ∈ b.takers now raw ↔ n ∈ b.nodes ∧ b.Accepts now raw n := by
  rw [takers, List.mem_filter, accepts_iff, heardOf]
  rcases (n.serve now (.sendRaw raw)).heard n.name b.callTimeout with _ | _ | _ <;> simp

theorem mem_refusers :
    n ∈ b.refusers now raw ↔ n ∈ b.nodes ∧ ∃ text, b.Refuses now raw n text := by
  simp only [refusers, List.mem_filter, refuses_iff, heardOf]
  rcases (n.serve now (.sendRaw raw)).heard n.name b.callTimeout with _ | _ | _ <;> simp

theorem mem_casualties : n ∈ b.casualties now raw ↔
    n ∈ b.nodes ∧ (n.serve now (.sendRaw raw)).Dies b.callTimeout := by
  rw [casualties, List.mem_filter, Option.isNone_iff_eq_none, heardOf, Attempt.heard_eq_none_iff]

/-- Every node takes the bytes, refuses them or dies of them. -/
theorem length_nodes_eq (b : Broadcaster) (now : Millis) (raw : Bytes) :
    (b.takers now raw).length + (b.refusers now raw).length + (b.casualties now raw).length =
      b.nodes.length := by
  unfold takers refusers casualties
  induction b.nodes with
  | nil => rfl
  | cons n ns ih =>
    rcases hn : b.heardOf now raw n with _ | _ | _ <;> simp [hn] at ih ⊢ <;> omega

/-- A node refuses the bytes unless it takes them or dies of them. -/
theorem refuses_or_iff (b : Broadcaster) (now : Millis) (raw : Bytes) (n : Node) :
    (∃ text, b.Refuses now raw n text) ↔
      ¬b.Accepts now raw n ∧ ¬(n.serve now (.sendRaw raw)).Dies b.callTimeout := by
  have hdies : (n.serve now (.sendRaw raw)).Dies b.callTimeout ↔
      (n.serve now (.sendRaw raw)).heard n.name b.callTimeout = none :=
    Attempt.heard_eq_none_iff.symm
  rw [accepts_iff, hdies]
  simp only [refuses_iff]
  rcases (n.serve now (.sendRaw raw)).heard n.name b.callTimeout with _ | _ | _ <;> simp

namespace Completes

variable {es : List (Ending Hash)}

/-- As many acceptances are counted as there are nodes that take the bytes. -/
theorem countP_accepted (h : b.Completes now raw es) :
    (Ending.deliveries es).countP (·.result.toBool) = (b.takers now raw).length := by
  rw [h.deliveries_perm.countP_eq, Delivery.ofNodes, List.countP_filterMap, takers,
    ← List.countP_eq_length_filter]
  refine List.countP_congr fun n _ => ?_
  rw [heardOf]
  cases (n.serve now (.sendRaw raw)).heard n.name b.callTimeout <;> simp

/-- The entries are those of the nodes that refuse the bytes. -/
theorem keys_perm (h : b.Completes now raw es) (hnames : (b.nodes.map (·.name)).Nodup) :
    (BroadcastOutcome.collect raw (Ending.deliveries es)).errors.keys.Perm
      ((b.refusers now raw).map (·.name)) := by
  have hrefusers : ((b.refusers now raw).map (·.name)).Nodup :=
    hnames.sublist (List.filter_sublist.map _)
  refine (List.perm_ext_iff_of_nodup (NameMap.nodup_keys _) hrefusers).2 fun name => ?_
  rw [NameMap.mem_keys_iff, List.mem_map]
  simp only [(h.tells hnames).errors, mem_refusers]
  constructor
  · rintro ⟨text, n, hn, hname, hrefuses⟩
    exact ⟨n, ⟨hn, text, hrefuses⟩, hname⟩
  · rintro ⟨n, ⟨hn, text, hrefuses⟩, hname⟩
    exact ⟨text, n, hn, hname, hrefuses⟩

end Completes

end Broadcaster

/-- An outcome that accounts for every node but those that died of the bytes. -/
structure BroadcastOutcome.Accounts (o : BroadcastOutcome) (b : Broadcaster) (now : Millis)
    (raw : Bytes) : Prop where
  /-- A node that neither took the bytes nor died of them has an entry, and no other has. -/
  entry : ∀ n ∈ b.nodes, (∃ text, o.errors.get? n.name = some text) ↔
    ¬b.Accepts now raw n ∧ ¬(n.serve now (.sendRaw raw)).Dies b.callTimeout
  names : ∀ name ∈ o.errors.keys, ∃ n ∈ b.nodes, n.name = name
  total : (b.takers now raw).length + o.errors.size + (b.casualties now raw).length =
    b.nodes.length
  complete : (b.takers now raw).length + o.errors.size = b.nodes.length ↔
    ∀ n ∈ b.nodes, ¬(n.serve now (.sendRaw raw)).Dies b.callTimeout
  /-- Nothing is said of a failure only if all nodes died of the bytes. -/
  silent : o.broadcasted = false → (o.errors.isEmpty = true ↔
    ∀ n ∈ b.nodes, (n.serve now (.sendRaw raw)).Dies b.callTimeout)

namespace Broadcaster

variable {b : Broadcaster} {now : Millis} {raw : Bytes} {es : List (Ending Hash)}

theorem Completes.accounts (h : b.Completes now raw es) (hnames : (b.nodes.map (·.name)).Nodup) :
    (BroadcastOutcome.collect raw (Ending.deliveries es)).Accounts b now raw := by
  have htells := h.tells hnames
  have hkeys := h.keys_perm hnames
  have hall := b.length_nodes_eq now raw
  have hsize : (BroadcastOutcome.collect raw (Ending.deliveries es)).errors.size =
      (b.refusers now raw).length := by
    rw [NameMap.size, ← List.length_map (·.1), ← NameMap.keys, hkeys.length_eq, List.length_map]
  refine ⟨fun n hn => ?_, fun name hname => ?_, hsize ▸ hall, ?_, fun hfailed => ?_⟩
  · rw [← b.refuses_or_iff now raw n]
    refine exists_congr fun text => (htells.errors n.name text).trans ⟨?_, fun h => ⟨n, hn, rfl, h⟩⟩
    rintro ⟨n', hn', hname, hrefuses⟩
    rwa [List.inj_on_of_nodup_map hnames hn' hn hname] at hrefuses
  · obtain ⟨n, hn, hname⟩ := List.mem_map.1 (hkeys.mem_iff.1 hname)
    exact ⟨n, (mem_refusers.1 hn).1, hname⟩
  · have hnone : (b.casualties now raw).length = 0 ↔
        ∀ n ∈ b.nodes, ¬(n.serve now (.sendRaw raw)).Dies b.callTimeout := by
      rw [List.length_eq_zero_iff, List.eq_nil_iff_forall_not_mem]
      simp only [mem_casualties, not_and]
    rw [hsize, ← hnone]
    omega
  · have htakers : (b.takers now raw).length = 0 := by
      rw [List.length_eq_zero_iff, List.eq_nil_iff_forall_not_mem]
      intro n hn
      have hbroadcasted := htells.broadcasted.2 ⟨n, mem_takers.1 hn⟩
      rw [hfailed] at hbroadcasted
      cases hbroadcasted
    have hempty : (BroadcastOutcome.collect raw (Ending.deliveries es)).errors.isEmpty = true ↔
        (b.refusers now raw).length = 0 := by
      rw [← hsize, NameMap.isEmpty, NameMap.size, List.isEmpty_iff, List.length_eq_zero_iff]
    have hdead : (b.casualties now raw).length = b.nodes.length ↔
        ∀ n ∈ b.nodes, (n.serve now (.sendRaw raw)).Dies b.callTimeout := by
      rw [casualties, List.length_filter_eq_length_iff]
      simp only [Option.isNone_iff_eq_none, heardOf, Attempt.heard_eq_none_iff]
    rw [hempty, ← hdead]
    omega

/-- **Every node is accounted for unless it died**, in whatever order the nodes end: it took the
    bytes and was counted, or it has an entry under its name. So acceptances and entries together
    are as many as the nodes exactly if none died, and a failure is silent only if all did. -/
theorem sendRaw_accounts (b : Broadcaster) (raw : Bytes) (s : Session)
    (hnames : (b.nodes.map (·.name)).Nodup) :
    ((b.sendRaw raw).run s).1.Accounts b s.now raw ∧
    ∀ es, b.Completes s.now raw es →
      ((b.sendRaw raw).run s).1 = .collect raw (Ending.deliveries es) ∧
      (Ending.deliveries es).countP (·.result.toBool) = (b.takers s.now raw).length := by
  have hcompletes := b.completes_endings s.now raw
  rw [run_sendRaw]
  exact ⟨hcompletes.accounts hnames,
    fun es hes => ⟨hcompletes.collect_eq hes hnames, hes.countP_accepted⟩⟩

/-- Of four nodes one takes the bytes, two refuse them and one dies of them. -/
theorem sendRaw_accounts_of_four :
    let b : Broadcaster := ⟨[.sentTo "a" 0 none, .sentTo "b" 5000 (some (.ok .zero)),
      .sentTo "c" 0 (some (.ok .zero)), .sentTo "d" 1 (some (.error (.transport "down")))], 4000⟩
    let o := ((b.sendRaw [1, 2]).run .start).1
    (b.nodes.map (·.name)).Nodup ∧ o.errors.size = 2 ∧ (∃ text, o.errors.get? "b" = some text) ∧
      ¬∃ text, o.errors.get? "a" = some text := by
  intro b o
  have hnames : (b.nodes.map (·.name)).Nodup := by decide
  have haccounts := (sendRaw_accounts b [1, 2] .start hnames).1
  refine ⟨hnames, ?_, ?_, ?_⟩
  · have htotal : 1 + o.errors.size + 1 = 4 := haccounts.total
    omega
  · refine (haccounts.entry _ (.tail _ (.head _))).2 ⟨fun h => absurd h.1 ?_, fun h => absurd h.1 ?_⟩
      <;> decide
  · intro hentry
    exact ((haccounts.entry _ (.head _)).1 hentry).2 ⟨by decide, rfl⟩

/-- The only node dies of the bytes, and nothing is said of it. -/
theorem no_entry_for_dead_send :
    let b : Broadcaster := ⟨[.sentTo "a" 0 none], 4000⟩
    let o := ((b.sendRaw [0xc0]).run .start).1
    (b.nodes.map (·.name)).Nodup ∧ ¬b.Accepts 0 [0xc0] (.sentTo "a" 0 none) ∧
      o.errors.get? "a" = none ∧ o.broadcasted = false ∧ o.errors.isEmpty = true ∧
      (b.takers 0 [0xc0]).length + o.errors.size ≠ b.nodes.length := by
  intro b o
  have hone : endings b.nodes b.callTimeout 0 (.sendRaw [0xc0]) = [⟨0, none⟩] :=
    List.mergeSort_singleton _
  have ho : o = .collect [0xc0] [] := by
    rw [show o = .collect [0xc0] (Ending.deliveries (endings b.nodes b.callTimeout 0
      (.sendRaw [0xc0]))) from rfl, hone]
    rfl
  rw [ho]
  refine ⟨List.nodup_singleton _, ?_, rfl, rfl, rfl, ?_⟩
  · rintro ⟨-, hash, h⟩
    cases h
  · change 0 + 0 ≠ 1
    decide

end Broadcaster

end NodeFleet

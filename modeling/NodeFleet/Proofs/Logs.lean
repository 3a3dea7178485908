/-
  What becomes of the logs of a contract call.

  * `LogEntry.Known`: the first topic of a log names an event of an interface;
    `LogEntry.complaint`: what is said of a log that is not known.
  * `readLog_of_known`, `readLog_of_not_known`: a known log gives an event, whether or not its
    topics and data can be read; any other gives a complaint.
  * `Analysis.ofLogs`: what is told of a mined contract call with some logs; `events_ofLogs`,
    `problems_ofLogs`: its events and problems, log by log.
  * `ofLogs_accounts`: every log is accounted for, and none changes what is told of another.
-/
import NodeFleet.Proofs.Analysis
import Mathlib.Data.List.Forall2

namespace NodeFleet

/-! ## One log -/

namespace LogEntry

/-- The first topic of a log names an event, which is not anonymous. -/
def Announces (log : LogEntry) (e : Abi.Event) : Prop :=
  e.anonymous = false ∧ log.topics.head? = some e.topic

instance (log : LogEntry) (e : Abi.Event) : Decidable (log.Announces e) :=
  inferInstanceAs (Decidable (_ ∧ _))

/-- The first topic of a log names an event of an interface. -/
def Known (i : Abi.Interface) (log : LogEntry) : Prop := ∃ e ∈ i.events, log.Announces e

instance (i : Abi.Interface) : DecidablePred (Known i) :=
  fun log => inferInstanceAs (Decidable (∃ e ∈ i.events, log.Announces e))

/-- What is said of a log that names no event. -/
def complaint (log : LogEntry) : String :=
  match log.topics with
  | [] => "log of " ++ log.address.checksummed ++ " has no topics"
  | topic :: _ => "Cannot find event of topic " ++ topic.text

/-- The first event of an interface that a log names. -/
def Names (i : Abi.Interface) (log : LogEntry) (e : Abi.Event) : Prop :=
  ∃ before after, i.events = before ++ e :: after ∧ log.Announces e ∧
    ∀ e' ∈ before, ¬log.Announces e'

/-- A log is told as an event, under the name of the one of the interface that it names. -/
def ToldAs (book : AddressBook) (i : Abi.Interface) (log : LogEntry) (ev : DecodedEvent) : Prop :=
  (readLog book i log).event = some ev ∧ ∃ e, log.Names i e ∧ ev.name = e.name

end LogEntry

section
variable {i : Abi.Interface} {log : LogEntry} {e : Abi.Event} {topic : Hash} {topics : List Hash}

theorem announces_iff (h : log.topics = topic :: topics) :
    log.Announces e ↔ (!e.anonymous && e.topic == topic) = true := by
  simp only [LogEntry.Announces, h, List.head?_cons, Option.some.injEq, Bool.and_eq_true,
    Bool.not_eq_true', beq_iff_eq, eq_comm (a := topic)]

theorem eventOf?_eq_some_iff (h : log.topics = topic :: topics) :
    i.eventOf? topic = some e ↔ log.Names i e := by
  simp only [Abi.Interface.eventOf?, List.find?_eq_some_iff_append, LogEntry.Names,
    announces_iff h, ← Bool.not_eq_true', Bool.not_eq_true]
  constructor
  · rintro ⟨hannounces, before, after, hevents, hbefore⟩
    exact ⟨before, after, hevents, hannounces, hbefore⟩
  · rintro ⟨before, after, hevents, hannounces, hbefore⟩
    exact ⟨hannounces, before, after, hevents, hbefore⟩

theorem eventOf?_eq_none_iff (h : log.topics = topic :: topics) :
    i.eventOf? topic = none ↔ ¬log.Known i := by
  simp only [Abi.Interface.eventOf?, List.find?_eq_none, LogEntry.Known, announces_iff h,
    not_exists, not_and]

/-- Whatever can be read of an event, it is told. -/
theorem event_readEvent (book : AddressBook) (e : Abi.Event) (topics : List Hash) (data : Bytes) :
    ∃ values, (readEvent book e topics data).event =
      some ⟨e.name, (readTopics book 0 e.inputs topics).1, values⟩ := by
  simp only [readEvent]
  cases readData book (dataParams e.inputs) data with
  | error err => exact ⟨[], rfl⟩
  | ok values => exact ⟨values, rfl⟩

/-- **A known log gives an event**, under the name of the first event that it names. -/
theorem readLog_of_known (book : AddressBook) (h : log.Known i) :
    ∃ ev, log.ToldAs book i ev := by
  cases htopics : log.topics with
  | nil =>
    obtain ⟨e, -, -, htopic⟩ := h
    simp [htopics] at htopic
  | cons topic topics =>
    cases hevent : i.eventOf? topic with
    | none => exact absurd h ((eventOf?_eq_none_iff htopics).1 hevent)
    | some e =>
      obtain ⟨values, hread⟩ := event_readEvent book e topics log.data
      have hlog : readLog book i log = readEvent book e topics log.data := by
        simp only [readLog, htopics, hevent]
      exact ⟨_, hlog ▸ hread, e, (eventOf?_eq_some_iff htopics).1 hevent, rfl⟩

/-- **Any other log gives a complaint** and nothing else. -/
theorem readLog_of_not_known (book : AddressBook) (h : ¬log.Known i) :
    readLog book i log = ⟨none, [log.complaint]⟩ := by
  cases htopics : log.topics with
  | nil => simp only [readLog, LogEntry.complaint, htopics]
  | cons topic topics =>
    simp only [readLog, LogEntry.complaint, htopics, (eventOf?_eq_none_iff htopics).2 h]

end

/-! ## All logs -/

namespace Analysis

/-- What is told of a mined contract call with some logs. -/
def ofLogs (book : AddressBook) (interfaces : InterfaceSource) (i : Abi.Interface)
    (tx : ChainTransaction) (receipt : Receipt) (logs : List LogEntry) : Analysis :=
  ofInfo book interfaces (.mined tx { receipt with logs }) (some i) true

theorem events_addCall (a : Analysis) (book : AddressBook) (call : Except CallProblem ReadCall) :
    (a.addCall book call).events = a.events := by
  cases call <;> rfl

theorem events_addLogs (a : Analysis) (rs : List LogReading) :
    (rs.foldl addLog a).events = a.events ++ rs.filterMap (·.event) := by
  induction rs generalizing a with
  | nil => exact (List.append_nil _).symm
  | cons r rs ih =>
    have hr : (a.addLog r).events = a.events ++ r.event.toList := rfl
    rw [List.foldl_cons, ih, hr, List.append_assoc]
    cases hevent : r.event with
    | none => rw [List.filterMap_cons_none hevent]; rfl
    | some ev => rw [List.filterMap_cons_some hevent]; rfl

theorem events_addWrapped (a : Analysis) (book : AddressBook) (interfaces : InterfaceSource)
    (call : Option (Address × Bytes)) : (a.addWrapped book interfaces call).events = a.events := by
  obtain ⟨wrapped, problems, h⟩ := addWrapped_eq a book interfaces call
  rw [h]

variable (book : AddressBook) (interfaces : InterfaceSource) (i : Abi.Interface)

/-- The known logs and their events are one to one. -/
theorem forall₂_events (logs : List LogEntry) :
    List.Forall₂ (LogEntry.ToldAs book i) (logs.filter (LogEntry.Known i))
      (logs.filterMap fun log => (readLog book i log).event) := by
  induction logs with
  | nil => exact .nil
  | cons log logs ih =>
    by_cases hlog : log.Known i
    · obtain ⟨ev, htold⟩ := readLog_of_known book hlog
      rw [List.filter_cons_of_pos (by simpa using hlog),
        List.filterMap_cons_some (f := fun log => (readLog book i log).event) htold.1]
      exact .cons htold ih
    · have hevent : (readLog book i log).event = none := by rw [readLog_of_not_known book hlog]
      rw [List.filter_cons_of_neg (by simpa using hlog),
        List.filterMap_cons_none (f := fun log => (readLog book i log).event) hevent]
      exact ih

variable {i}

/-- One unknown log more is one problem more, between those of the logs around it. -/
theorem problemsOfDetails_insert (input : Bytes) (before after : List LogEntry) {log : LogEntry}
    (hlog : ¬log.Known i) :
    ∃ ps qs, problemsOfDetails book interfaces i input (before ++ after) = ps ++ qs ∧
      problemsOfDetails book interfaces i input (before ++ log :: after) =
        ps ++ log.complaint :: qs := by
  refine ⟨problemsOfCall (i.readCall input) ++
      before.flatMap (fun log => (readLog book i log).problems),
    after.flatMap (fun log => (readLog book i log).problems) ++
      problemsOfWrapped book interfaces ((i.readCall input).toOption.bind (·.wrapped?)), ?_, ?_⟩
  · simp only [problemsOfDetails, List.flatMap_append, List.append_assoc]
  · simp only [problemsOfDetails, List.flatMap_append, List.flatMap_cons,
      readLog_of_not_known book hlog, List.append_assoc, List.cons_append, List.nil_append]

variable (i) {tx : ChainTransaction} {to_ : Address} (receipt : Receipt)

theorem events_ofLogs (htx : tx.to_ = some to_) (logs : List LogEntry) :
    (ofLogs book interfaces i tx receipt logs).events =
      logs.filterMap fun log => (readLog book i log).event := by
  rw [ofLogs, ofInfo_of_call book interfaces htx, addDetails, events_addWrapped, events_addLogs,
    events_addCall, List.filterMap_map]
  rfl

theorem problems_ofLogs (htx : tx.to_ = some to_) (logs : List LogEntry) :
    (ofLogs book interfaces i tx receipt logs).problems =
      "; ".intercalate (problemsOfDetails book interfaces i tx.input logs) := by
  have hproblems : problemsOf book interfaces (.mined tx { receipt with logs }) (some i) true =
      problemsOfDetails book interfaces i tx.input logs := by
    simp only [problemsOf, htx]
  rw [ofLogs, problems_ofInfo,
    foldl_joinProblem_empty fun p => ne_empty_of_mem_problemsOf, hproblems]

/-- **Every log is accounted for.** With the logs of a mined contract call, however they decode:

* the known ones, in their order, and the events told are one to one, and each event has the name
  of the first event of the interface that its log names;
* an unknown one leaves no event, and puts one message between the problems of the logs around it;
* events of logs that follow others follow their events. -/
theorem ofLogs_accounts (htx : tx.to_ = some to_) :
    (∀ logs, List.Forall₂ (LogEntry.ToldAs book i) (logs.filter (LogEntry.Known i))
        (ofLogs book interfaces i tx receipt logs).events) ∧
      (∀ before log after, ¬log.Known i →
        (ofLogs book interfaces i tx receipt (before ++ log :: after)).events =
            (ofLogs book interfaces i tx receipt (before ++ after)).events ∧
          ∃ ps qs : List String, (∀ p ∈ ps ++ qs, p ≠ "") ∧
            (ofLogs book interfaces i tx receipt (before ++ after)).problems =
              "; ".intercalate (ps ++ qs) ∧
            (ofLogs book interfaces i tx receipt (before ++ log :: after)).problems =
              "; ".intercalate (ps ++ log.complaint :: qs)) ∧
      ∀ logs logs',
        (ofLogs book interfaces i tx receipt (logs ++ logs')).events =
          (ofLogs book interfaces i tx receipt logs).events ++
            (ofLogs book interfaces i tx receipt logs').events := by
  refine ⟨fun logs => ?_, fun before log after hlog => ?_, fun logs logs' => ?_⟩
  · rw [events_ofLogs book interfaces i receipt htx]
    exact forall₂_events book i logs
  · refine ⟨?_, ?_⟩
    · simp only [events_ofLogs book interfaces i receipt htx, List.filterMap_append,
        List.filterMap_cons, readLog_of_not_known book hlog]
    · obtain ⟨ps, qs, hsplit, hsplit'⟩ :=
        problemsOfDetails_insert book interfaces tx.input before after hlog
      refine ⟨ps, qs, fun p hp => ?_, ?_, ?_⟩
      · rw [← hsplit] at hp
        exact ne_empty_of_mem_problemsOfDetails hp
      · rw [problems_ofLogs book interfaces i receipt htx, hsplit]
      · rw [problems_ofLogs book interfaces i receipt htx, hsplit']
  · simp only [events_ofLogs book interfaces i receipt htx, List.filterMap_append]

/-- An event of one number. -/
def ping : Abi.Event := ⟨"Ping", [⟨⟨"n", "uint256", []⟩, false⟩], false⟩

/-- What is told of a call with some logs of a contract whose only event is `ping`. -/
def ofPings : List LogEntry → Analysis :=
  ofLogs .empty (fun a => .error (.unregistered a)) ⟨[], [ping]⟩
    ⟨.zero, .zero, some .zero, 7, 0, 21000, 0, [], some 1⟩ ⟨.failure, 21000, [], some 1⟩

/-- A log without topics, and one of `ping` without its number: the second gives the only event,
    with or without the first. -/
theorem ofLogs_accounts_of_two :
    (∃ ev, (ofPings [⟨.zero, [ping.topic], []⟩]).events = [ev] ∧ ev.name = "Ping") ∧
      (ofPings [⟨.zero, [], []⟩, ⟨.zero, [ping.topic], []⟩]).events =
        (ofPings [⟨.zero, [ping.topic], []⟩]).events ∧
      ∃ ps qs : List String,
        (ofPings [⟨.zero, [ping.topic], []⟩]).problems = "; ".intercalate (ps ++ qs) ∧
        (ofPings [⟨.zero, [], []⟩, ⟨.zero, [ping.topic], []⟩]).problems =
          "; ".intercalate (ps ++ LogEntry.complaint ⟨.zero, [], []⟩ :: qs) := by
  have hbare : ¬LogEntry.Known ⟨[], [ping]⟩ ⟨.zero, [], []⟩ := fun ⟨_, _, _, htopic⟩ =>
    nomatch htopic
  have hping : LogEntry.Known ⟨[], [ping]⟩ ⟨.zero, [ping.topic], []⟩ :=
    ⟨ping, .head _, rfl, rfl⟩
  have htx : (ChainTransaction.mk .zero .zero (some .zero) 7 0 21000 0 [] (some 1)).to_ =
      some .zero := rfl
  obtain ⟨hevents, hunknown, -⟩ := ofLogs_accounts .empty
    (fun a => .error (.unregistered a)) ⟨[], [ping]⟩ ⟨.failure, 21000, [], some 1⟩ htx
  obtain ⟨hsame, ps, qs, -, hproblems⟩ := hunknown [] _ [⟨.zero, [ping.topic], []⟩] hbare
  refine ⟨?_, hsame, ps, qs, hproblems⟩
  have hone := hevents [⟨.zero, [ping.topic], []⟩]
  rw [List.filter_cons_of_pos (by simpa using hping), List.filter_nil] at hone
  obtain ⟨ev, rest, ⟨-, e, ⟨before, after, hsplit, -⟩, hname⟩, hrest, htold⟩ :=
    List.forall₂_cons_left_iff.1 hone
  have he : e ∈ [ping] := by
    rw [show [ping] = before ++ e :: after from hsplit]
    exact List.mem_append_right before (.head after)
  rw [List.forall₂_nil_left_iff.1 hrest] at htold
  exact ⟨ev, htold, by rw [hname, List.mem_singleton.1 he]; rfl⟩

end Analysis

end NodeFleet

/-
  Emitted events are read back from their logs.

  * `Abi.Argument`: a value that is emitted under a parameter of an event, of the parameter's type.
  * `Abi.Event.log`: the log of an event: topics for the indexed values, the encoding of the others
    as data; `Abi.Event.told`: the event as it should be told.
  * `eventOf?_topic`: the event that emitted a log is the one that its first topic names.
  * `readTopics_eq`, `readData_eq`: topics and data are read back, each under its own parameter.
  * `emitted_log_reads_back`: what is told of an emitted log is what was emitted.
-/
import NodeFleet.Proofs.Calldata
import NodeFleet.Proofs.Logs

namespace NodeFleet

namespace Abi

/-! ## Emitting -/

/-- A value that is emitted under a parameter of an event. -/
structure Argument where
  param : EventParam
  type : Ty
  value : Value
  resolves : param.param.resolve = .ok type
  admits : type.admits value = true

namespace Argument

/-- The topic of an indexed value: its one word, or a digest of it. -/
def topic (digest : Value → Hash) (a : Argument) : Hash :=
  if a.type.isWord then Hash.ofBytes a.value.put else digest a.value

/-- What an indexed value is told as: the value, if its one word is there, or the digest. -/
def topicText (book : AddressBook) (digest : Value → Hash) (a : Argument) : String :=
  if a.type.isWord then a.value.render book else (digest a.value).text

/-- A value can be read back from the data of a log. -/
def Readable (a : Argument) : Prop := a.type.filled = true ∧ a.type.frames ≤ maxDepth

end Argument

/-- The topics of the indexed values, in the order of the parameters. -/
def topicsOf (digest : Value → Hash) (args : List Argument) : List Hash :=
  (args.filter (·.param.indexed)).map (·.topic digest)

/-- The values that are not indexed, one after another. -/
def dataOf (args : List Argument) : Bytes :=
  encode ((args.filter (!·.param.indexed)).map (·.value))

namespace Event

/-- The log that a contract emits for an event. -/
def log (e : Event) (digest : Value → Hash) (address : Address) (args : List Argument) : LogEntry :=
  ⟨address, e.topic :: topicsOf digest args, dataOf args⟩

/-- What should be told of it. Each value stands under the name of its parameter, or under its place
    among all of them. -/
def told (e : Event) (book : AddressBook) (digest : Value → Hash) (args : List Argument) :
    DecodedEvent where
  name := e.name
  topics := (args.zipIdx.filter (·.1.param.indexed)).map fun (a, place) =>
    ⟨paramName a.param.param.name place, a.topicText book digest⟩
  data := (args.zipIdx.filter (!·.1.param.indexed)).map fun (a, place) =>
    ⟨paramName a.param.param.name place, a.param.param.typeText, a.value.render book⟩

end Event

/-! ## The event -/

/-- No two events that announce themselves share a topic. -/
def Interface.TopicsDistinct (i : Interface) : Prop :=
  ((i.events.filter (!·.anonymous)).map (·.topic)).Nodup

theorem Interface.eventOf?_topic {i : Interface} {e : Event} (hdistinct : i.TopicsDistinct)
    (he : e ∈ i.events) (hannounced : e.anonymous = false) : i.eventOf? e.topic = some e := by
  have hfind : i.eventOf? e.topic =
      (i.events.filter (!·.anonymous)).find? (·.topic == e.topic) := by
    rw [eventOf?, List.find?_filter]
    simp only [Bool.decide_and, Bool.decide_eq_true]
  have hmem : e ∈ i.events.filter (!·.anonymous) := List.mem_filter.2 ⟨he, by rw [hannounced]; rfl⟩
  rw [hfind, find?_of_nodup_map hdistinct hmem]

/-! ## Topics -/

/-- A value of a type of one word is one word, and stands in the list it is in. -/
theorem Ty.put_of_isWord {t : Ty} {v : Value} (ht : t.isWord = true) (hv : t.admits v = true) :
    v.put.length = 32 ∧ v.isDynamic = false ∧ t.frames = 0 ∧ t.filled = true := by
  cases t <;> simp only [Ty.isWord, Bool.false_eq_true] at ht <;>
    cases v <;> simp only [Ty.admits, Bool.false_eq_true] at hv <;>
    simp [Value.put, wordBytes, Value.isDynamic, Ty.frames, Ty.filled]

end Abi

open Abi

variable (book : AddressBook) (digest : Value → Hash)

theorem renderTopic_eq (a : Argument) :
    renderTopic book a.param.param (a.topic digest) = a.topicText book digest := by
  unfold renderTopic Argument.topic Argument.topicText
  rw [a.resolves]
  by_cases hword : a.type.isWord = true
  · obtain ⟨hlength, hdynamic, hframes, hfilled⟩ := Ty.put_of_isWord hword a.admits
    have hread : a.type.decode ⟨(Hash.ofBytes a.value.put).toBytes, 0⟩ 0 =
        .ok (a.value, 0 + a.value.part.headSize) := by
      refine reads_of_admits hfilled a.admits _ 0 (by simp [hframes]) ?_ ?_
      · rw [Hash.length_toBytes]
        decide
      · rw [Value.part, hdynamic, Hash.toBytes_ofBytes hlength]
        exact List.prefix_refl _
    simp only [if_pos hword, hread]
  · simp only [if_neg hword]

/-- **Topics are read back**, each under its own parameter. -/
theorem readTopics_eq (args : List Argument) (place : Nat) :
    readTopics book place (args.map (·.param)) (topicsOf digest args) =
      (((args.zipIdx place).filter (·.1.param.indexed)).map fun (a, place) =>
        ⟨paramName a.param.param.name place, a.topicText book digest⟩, []) := by
  induction args generalizing place with
  | nil => rfl
  | cons a args ih =>
    rw [List.map_cons, List.zipIdx_cons]
    unfold readTopics
    cases hindexed : a.param.indexed with
    | true =>
      have htopics : topicsOf digest (a :: args) = a.topic digest :: topicsOf digest args := by
        simp only [topicsOf, List.filter_cons, hindexed, if_true, List.map_cons]
      rw [htopics]
      simp only [List.filter_cons, hindexed, if_true, List.map_cons, ih, renderTopic_eq]
    | false =>
      have htopics : topicsOf digest (a :: args) = topicsOf digest args := by
        simp only [topicsOf, List.filter_cons, hindexed, Bool.false_eq_true, if_false]
      rw [htopics]
      simp only [List.filter_cons, hindexed, Bool.false_eq_true, if_false, ih]

/-! ## Data -/

theorem resolveParams_eq {α : Type} {param : α → Param} {type : α → Ty} {as : List α}
    (h : ∀ a ∈ as, (param a).resolve = .ok (type a)) :
    resolveParams (as.map param) = .ok (as.map type) := by
  induction as with
  | nil => rfl
  | cons a as ih =>
    obtain ⟨ha, has⟩ := List.forall_mem_cons.1 h
    rw [List.map_cons, resolveParams, ha, ih has]
    rfl

/-- The arguments whose values stand in the data, with their places. -/
def dataArguments (args : List Argument) : List (Argument × Nat) :=
  args.zipIdx.filter (!·.1.param.indexed)

theorem dataParams_eq (args : List Argument) :
    dataParams (args.map (·.param)) =
      (dataArguments args).map fun (a, place) => (a.param.param, place) := by
  rw [dataParams, dataArguments, List.zipIdx_map, List.filter_map, List.map_map]
  rfl

theorem dataOf_eq (args : List Argument) :
    dataOf args = encode ((dataArguments args).map (·.1.value)) := by
  have hfst : (dataArguments args).map (·.1) = args.filter (!·.param.indexed) := by
    conv_rhs => rw [← List.zipIdx_map_fst 0 args, List.filter_map]
    rfl
  rw [dataOf, ← hfst, List.map_map]
  rfl

/-- **Data is read back**, each value under its own parameter. -/
theorem readData_eq {args : List Argument}
    (hreadable : ∀ a ∈ args, a.param.indexed = false → a.Readable)
    (hsize : (dataOf args).length < twoTo 64) :
    readData book (dataParams (args.map (·.param))) (dataOf args) =
      .ok ((dataArguments args).map fun (a, place) =>
        ⟨paramName a.param.param.name place, a.param.param.typeText, a.value.render book⟩) := by
  have hargs : ∀ p ∈ dataArguments args, p.1 ∈ args ∧ p.1.param.indexed = false := by
    intro p hp
    obtain ⟨hmem, hindexed⟩ := List.mem_filter.1 hp
    exact ⟨(List.mem_zipIdx' hmem).2 ▸ List.getElem_mem _, by simpa using hindexed⟩
  have htypes : resolveParams ((dataArguments args).map (·.1.param.param)) =
      .ok ((dataArguments args).map (·.1.type)) :=
    resolveParams_eq fun p _ => p.1.resolves
  have hvalues : decode (((dataArguments args).map (·.1.type)).map .ok) (dataOf args) =
      .ok ((dataArguments args).map (·.1.value)) := by
    refine decode_of_encode ?_ ?_ hsize (dataOf_eq args ▸ List.prefix_refl _)
    · intro t ht
      obtain ⟨p, hp, rfl⟩ := List.mem_map.1 ht
      exact hreadable p.1 (hargs p hp).1 (hargs p hp).2
    · rw [List.forall₂_map_left_iff, List.forall₂_map_right_iff, List.forall₂_same]
      exact fun p _ => p.1.admits
  have hplaced : placedValues book
      ((dataArguments args).map fun (a, place) => (a.param.param, place))
      ((dataArguments args).map (·.1.value)) =
        (dataArguments args).map fun (a, place) =>
          ⟨paramName a.param.param.name place, a.param.param.typeText, a.value.render book⟩ := by
    rw [placedValues, List.zipWith_map, List.zipWith_self]
  have hfirst : ((dataArguments args).map fun (a, place) => (a.param.param, place)).map (·.1) =
      (dataArguments args).map (·.1.param.param) := by
    rw [List.map_map]
    rfl
  rw [dataParams_eq, readData]
  by_cases hnone : dataArguments args = []
  · rw [hnone]
    rfl
  · have hsome : ¬((dataArguments args).map fun (a, place) =>
        (a.param.param, place)).isEmpty = true := by
      simpa using hnone
    rw [if_neg hsome, hfirst, htypes]
    simp only [hvalues, hplaced]

/-! ## The log -/

/-- **What is told of an emitted log is what was emitted**, whatever the digests are, if its data
    can be counted in 64 bits and the values in it can be read. No problem is noted. -/
theorem emitted_log_reads_back {i : Interface} (hdistinct : i.TopicsDistinct) {e : Abi.Event}
    (he : e ∈ i.events) (hannounced : e.anonymous = false) {args : List Argument}
    (hargs : args.map (·.param) = e.inputs)
    (hreadable : ∀ a ∈ args, a.param.indexed = false → a.Readable)
    (hsize : (dataOf args).length < twoTo 64) (address : Address) (a : Analysis) :
    a.addLog (readLog book i (e.log digest address args)) =
      { a with events := a.events ++ [e.told book digest args] } := by
  have hevent : i.eventOf? e.topic = some e := i.eventOf?_topic hdistinct he hannounced
  have hread : readLog book i (e.log digest address args) =
      ⟨some (e.told book digest args), []⟩ := by
    simp only [readLog, Abi.Event.log, hevent, readEvent, ← hargs, readTopics_eq,
      readData_eq book hreadable hsize]
    rfl
  rw [hread]
  rfl

/-- An event with two indexed values among four, the last of which has no name. -/
def sent : Abi.Event :=
  ⟨"Sent", [⟨⟨"from", "address", []⟩, true⟩, ⟨⟨"amount", "uint256", []⟩, false⟩,
    ⟨⟨"memo", "string", []⟩, true⟩, ⟨⟨"", "uint256", []⟩, false⟩], false⟩

/-- The values of such an event. -/
def sentArguments (sender : Address) (amount : Word) (memo : String) (fee : Word) : List Argument :=
  [⟨⟨⟨"from", "address", []⟩, true⟩, .address, .address sender, Param.resolve_address _, rfl⟩,
    ⟨⟨⟨"amount", "uint256", []⟩, false⟩, .uint 256, .uint amount 256, Param.resolve_uint256 _, rfl⟩,
    ⟨⟨⟨"memo", "string", []⟩, true⟩, .string, .string memo, Param.resolve_string _, rfl⟩,
    ⟨⟨⟨"", "uint256", []⟩, false⟩, .uint 256, .uint fee 256, Param.resolve_uint256 _, rfl⟩]

/-- Two topics and two words of data, one of them under its place. -/
theorem emitted_log_reads_back_of_sent :
    let a := Analysis.blank .zero .done
    let log := sent.log (fun _ => ⟨7⟩) .zero (sentArguments .zero 5 "rent" 2)
    log.topics.length = 3 ∧ log.data = wordBytes 5 ++ wordBytes 2 ∧
    (a.addLog (readLog .empty ⟨[], [sent]⟩ log)).problems = "" ∧
    (a.addLog (readLog .empty ⟨[], [sent]⟩ log)).events =
      [⟨"Sent", [⟨"from", (Value.address .zero).render .empty⟩, ⟨"memo", (Hash.mk 7).text⟩],
        [⟨"amount", "uint256", (Value.uint 5 256).render .empty⟩,
          ⟨"arg3", "uint256", (Value.uint 2 256).render .empty⟩]⟩] := by
  intro a log
  have hargs : (sentArguments .zero 5 "rent" 2).map (·.param) = sent.inputs := rfl
  have hreads := emitted_log_reads_back .empty (fun _ => ⟨7⟩) (i := ⟨[], [sent]⟩)
    (List.nodup_singleton _) (.head _) rfl hargs ?_ ?_ .zero a
  · refine ⟨rfl, rfl, ?_, ?_⟩
    · rw [hreads]
      rfl
    · rw [hreads]
      rfl
  · intro a ha hindexed
    simp only [sentArguments, List.mem_cons, List.not_mem_nil, or_false] at ha
    rcases ha with rfl | rfl | rfl | rfl
    · cases hindexed
    · exact ⟨rfl, by decide⟩
    · cases hindexed
    · exact ⟨rfl, by decide⟩
  · decide +kernel

end NodeFleet

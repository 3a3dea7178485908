/-
  What analyses keep, and what they complain of.

  * `Analysis.Plain`, `Analysis.plain`: the plain fields. What is added by an interface leaves
    them and more as they are (`addDetails_eq`).
  * `Analysis.foldl_joinProblem`: problems that are joined one by one are a list with semicolons.
  * `Analysis.problemsOfCall`, `Analysis.problemsOfWrapped`, `Analysis.problemsOf`: the problems
    of one transaction, in their order; none is empty (`ne_empty_of_mem_problemsOf`).
  * `ofInfo_keeps_all`: the plain fields and the problems of every analysis.
-/
import NodeFleet.Analyzer
import Mathlib.Data.List.Basic

namespace NodeFleet

namespace Analysis

variable {a : Analysis} {book : AddressBook} {interfaces : InterfaceSource}

/-! ## Plain fields -/

/-- The plain fields of an analysis. -/
structure Plain where
  hash : Hash
  status : TxStatus
  sender : Option NamedAddress
  to_ : Option NamedAddress
  value : Option String
  nonce : Option UInt64
  gasPrice : Option String
  gasLimit : Option UInt64

def plain (a : Analysis) : Plain :=
  ⟨a.hash, a.status, a.sender, a.to_, a.value, a.nonce, a.gasPrice, a.gasLimit⟩

theorem noteAll_eq (a : Analysis) (ps : List String) :
    ∃ problems, a.noteAll ps = { a with problems } := by
  unfold noteAll
  induction ps generalizing a with
  | nil => exact ⟨a.problems, rfl⟩
  | cons p ps ih =>
    obtain ⟨problems, h⟩ := ih (a.note p)
    exact ⟨problems, h⟩

theorem addLogs_eq (a : Analysis) (rs : List LogReading) :
    ∃ events problems, rs.foldl addLog a = { a with events, problems } := by
  induction rs generalizing a with
  | nil => exact ⟨a.events, a.problems, rfl⟩
  | cons r rs ih =>
    obtain ⟨problems, hr⟩ := noteAll_eq a r.problems
    obtain ⟨events, problems', hrs⟩ := ih (a.addLog r)
    refine ⟨events, problems', ?_⟩
    rw [List.foldl_cons, hrs, addLog, hr]

theorem addWrapped_eq (a : Analysis) (book : AddressBook) (interfaces : InterfaceSource)
    (call : Option (Address × Bytes)) :
    ∃ wrapped problems, a.addWrapped book interfaces call = { a with wrapped, problems } := by
  unfold addWrapped
  split
  · exact ⟨a.wrapped, a.problems, rfl⟩
  · exact ⟨a.wrapped, a.problems, rfl⟩
  · split
    · exact ⟨_, a.problems, rfl⟩
    · exact ⟨a.wrapped, _, rfl⟩

/-- Behind the call nothing but events, the wrapped call and problems are added. -/
theorem addDetails_eq (a : Analysis) (book : AddressBook) (interfaces : InterfaceSource)
    (i : Abi.Interface) (input : Bytes) (logs : List LogEntry) :
    ∃ events wrapped problems, a.addDetails book interfaces i input logs =
      { a.addCall book (i.readCall input) with events, wrapped, problems } := by
  obtain ⟨events, problems, hlogs⟩ :=
    addLogs_eq (a.addCall book (i.readCall input)) (logs.map (readLog book i))
  obtain ⟨wrapped, problems', hwrapped⟩ :=
    addWrapped_eq ((logs.map (readLog book i)).foldl addLog (a.addCall book (i.readCall input)))
      book interfaces ((i.readCall input).toOption.bind (·.wrapped?))
  refine ⟨events, wrapped, problems', ?_⟩
  rw [addDetails, hwrapped, hlogs]

theorem plain_addDetails (a : Analysis) (book : AddressBook) (interfaces : InterfaceSource)
    (i : Abi.Interface) (input : Bytes) (logs : List LogEntry) :
    (a.addDetails book interfaces i input logs).plain = a.plain := by
  obtain ⟨events, wrapped, problems, h⟩ := addDetails_eq a book interfaces i input logs
  rw [h]
  cases i.readCall input <;> rfl

/-- What is told of a mined call of a contract with an interface. -/
theorem ofInfo_of_call (book : AddressBook) (interfaces : InterfaceSource)
    {tx : ChainTransaction} {to_ : Address} (htx : tx.to_ = some to_) (receipt : Receipt)
    (i : Abi.Interface) :
    ofInfo book interfaces (.mined tx receipt) (some i) true =
      { ofTransaction book (TxInfo.mined tx receipt).status tx with
        kind := some .contractCall
        contract := some (book.named to_) }.addDetails book interfaces i tx.input receipt.logs := by
  simp only [ofInfo, htx, if_true]

/-- The plain fields of a mined transaction are its own, whatever else is known. -/
theorem plain_ofInfo_mined (book : AddressBook) (interfaces : InterfaceSource)
    (tx : ChainTransaction) (receipt : Receipt) (interface : Option Abi.Interface)
    (isContract : Bool) :
    (ofInfo book interfaces (.mined tx receipt) interface isContract).plain =
      (ofTransaction book (TxInfo.mined tx receipt).status tx).plain := by
  rcases htx : tx.to_ with _ | to_
  · simp only [ofInfo, htx]
    rfl
  · cases isContract
    · simp only [ofInfo, htx]
      rfl
    · cases interface
      · simp only [ofInfo, htx, if_true]
        rfl
      · rw [ofInfo_of_call book interfaces htx, plain_addDetails]
        rfl

/-! ## Problems -/

theorem joinProblem_of_ne_empty {problems : String} (h : problems ≠ "") (problem : String) :
    joinProblem problems problem = problems ++ "; " ++ problem := by
  rw [joinProblem, if_neg (mt String.isEmpty_iff.1 h)]

theorem intercalate_append_cons (sep s t : String) (ts : List String) :
    sep.intercalate ((s ++ t) :: ts) = s ++ sep.intercalate (t :: ts) := by
  cases ts with
  | nil => simp
  | cons u us => simp only [String.intercalate_cons_cons, String.append_assoc]

/-- Problems that are joined to others stand behind them in a list with semicolons. -/
theorem foldl_joinProblem {s : String} (hs : s ≠ "") (ps : List String) :
    ps.foldl joinProblem s = "; ".intercalate (s :: ps) := by
  induction ps generalizing s with
  | nil => simp
  | cons p ps ih =>
    have hne : s ++ "; " ++ p ≠ "" := fun h =>
      hs (String.append_eq_empty_iff.1 (String.append_eq_empty_iff.1 h).1).1
    rw [List.foldl_cons, joinProblem_of_ne_empty hs, ih hne, intercalate_append_cons,
      String.intercalate_cons_cons]

theorem foldl_joinProblem_empty {ps : List String} (hps : ∀ p ∈ ps, p ≠ "") :
    ps.foldl joinProblem "" = "; ".intercalate ps := by
  cases ps with
  | nil => rfl
  | cons p ps => exact foldl_joinProblem (hps p (.head _)) ps

/-- The problem of a call that cannot be read. -/
def problemsOfCall : Except CallProblem ReadCall → List String
  | .ok _ => []
  | .error p => [p.message]

/-- The problem of a wrapped call that cannot be read. -/
def problemsOfWrapped (book : AddressBook) (interfaces : InterfaceSource) :
    Option (Address × Bytes) → List String
  | none | some (_, []) => []
  | some (destination, data) =>
    match readWrapped book interfaces destination data with
    | .ok _ => []
    | .error problem => [problem]

/-- The problems that an interface leaves: of the call, of the logs in turn, of the wrapped call. -/
def problemsOfDetails (book : AddressBook) (interfaces : InterfaceSource) (i : Abi.Interface)
    (input : Bytes) (logs : List LogEntry) : List String :=
  problemsOfCall (i.readCall input) ++ logs.flatMap (fun log => (readLog book i log).problems) ++
    problemsOfWrapped book interfaces ((i.readCall input).toOption.bind (·.wrapped?))

/-- The problems met with what reports say. -/
def problemsOf (book : AddressBook) (interfaces : InterfaceSource) (info : TxInfo)
    (interface : Option Abi.Interface) (isContract : Bool) : List String :=
  match info with
  | .mined tx receipt =>
    match tx.to_, isContract, interface with
    | none, _, _ => ["contract creation, nothing to decode"]
    | some _, true, some i => problemsOfDetails book interfaces i tx.input receipt.logs
    | some _, _, _ => []
  | _ => []

theorem problems_noteAll (a : Analysis) (ps : List String) :
    (a.noteAll ps).problems = ps.foldl joinProblem a.problems := by
  unfold noteAll
  induction ps generalizing a with
  | nil => rfl
  | cons p ps ih => exact ih (a.note p)

theorem problems_addCall (a : Analysis) (book : AddressBook) (call : Except CallProblem ReadCall) :
    (a.addCall book call).problems = (problemsOfCall call).foldl joinProblem a.problems := by
  cases call <;> rfl

theorem problems_addLogs (a : Analysis) (rs : List LogReading) :
    (rs.foldl addLog a).problems = (rs.flatMap (·.problems)).foldl joinProblem a.problems := by
  induction rs generalizing a with
  | nil => rfl
  | cons r rs ih =>
    have hr : (a.addLog r).problems = r.problems.foldl joinProblem a.problems :=
      problems_noteAll a r.problems
    rw [List.foldl_cons, ih, List.flatMap_cons, List.foldl_append, hr]

theorem problems_addWrapped (a : Analysis) (book : AddressBook) (interfaces : InterfaceSource)
    (wrapped : Option (Address × Bytes)) :
    (a.addWrapped book interfaces wrapped).problems =
      (problemsOfWrapped book interfaces wrapped).foldl joinProblem a.problems := by
  rcases wrapped with _ | ⟨destination, _ | ⟨b, bs⟩⟩
  · rfl
  · rfl
  · rcases hwrapped : readWrapped book interfaces destination (b :: bs) with problem | c <;>
      simp only [addWrapped, problemsOfWrapped, hwrapped] <;> rfl

/-- What is added by an interface is complained of in the order call, logs, wrapped call. -/
theorem problems_addDetails (a : Analysis) (book : AddressBook) (interfaces : InterfaceSource)
    (i : Abi.Interface) (input : Bytes) (logs : List LogEntry) :
    (a.addDetails book interfaces i input logs).problems =
      (problemsOfDetails book interfaces i input logs).foldl joinProblem a.problems := by
  rw [addDetails, problems_addWrapped, problems_addLogs, problems_addCall, List.flatMap_map,
    problemsOfDetails, List.foldl_append, List.foldl_append]

theorem problems_ofInfo (book : AddressBook) (interfaces : InterfaceSource) (info : TxInfo)
    (interface : Option Abi.Interface) (isContract : Bool) :
    (ofInfo book interfaces info interface isContract).problems =
      (problemsOf book interfaces info interface isContract).foldl joinProblem "" := by
  rcases info with _ | _ | _ | _ | ⟨tx, receipt⟩
  any_goals rfl
  rcases htx : tx.to_ with _ | to_
  · simp only [ofInfo, problemsOf, htx]
    rfl
  · cases isContract
    · simp only [ofInfo, problemsOf, htx]
      rfl
    · cases interface
      · simp only [ofInfo, problemsOf, htx, if_true]
        rfl
      · simp only [ofInfo_of_call book interfaces htx, problemsOf, htx, problems_addDetails]
        rfl

/-! ## No problem is empty -/

theorem append_ne_empty_left {s : String} (hs : s ≠ "") (t : String) : s ++ t ≠ "" :=
  fun h => hs (String.append_eq_empty_iff.1 h).1

theorem append_ne_empty_right (s : String) {t : String} (ht : t ≠ "") : s ++ t ≠ "" :=
  fun h => ht (String.append_eq_empty_iff.1 h).2

theorem decode_message_ne_empty (e : DecodeError) : (Error.decode e).message ≠ "" :=
  append_ne_empty_left (by simp) e.message

theorem message_ne_empty (p : CallProblem) : p.message ≠ "" := by
  cases p with
  | method e => exact decode_message_ne_empty (.selector e)
  | arguments name e =>
    exact append_ne_empty_left (append_ne_empty_right _ (by simp)) e.message

theorem wrappedMessage_ne_empty (p : CallProblem) : p.wrappedMessage ≠ "" := by
  cases p with
  | method e => exact append_ne_empty_left (by simp) (Error.decode (.selector e)).message
  | arguments name e =>
    exact append_ne_empty_left (append_ne_empty_right _ (by simp)) e.message

theorem ne_empty_of_mem_readEvent {e : Abi.Event} {topics : List Hash} {data : Bytes} {p : String}
    (h : p ∈ (readEvent book e topics data).problems) : p ≠ "" := by
  have hmissing : ∀ names : List String,
      p ∈ names.map (fun name => e.name ++ ": missing topic for " ++ name) → p ≠ "" := by
    intro names hp
    obtain ⟨name, -, rfl⟩ := List.mem_map.1 hp
    exact append_ne_empty_left (append_ne_empty_right _ (by simp)) name
  unfold readEvent at h
  rcases hdata : readData book (dataParams e.inputs) data with err | values <;>
    simp only [hdata] at h
  · rcases List.mem_append.1 h with h | h
    · exact hmissing _ h
    · rw [List.mem_singleton.1 h]
      exact append_ne_empty_right _ (decode_message_ne_empty err)
  · exact hmissing _ h

theorem ne_empty_of_mem_readLog {i : Abi.Interface} {log : LogEntry} {p : String}
    (h : p ∈ (readLog book i log).problems) : p ≠ "" := by
  unfold readLog at h
  split at h
  · rw [List.mem_singleton.1 h]
    simp [String.append_eq_empty_iff]
  · split at h
    · rw [List.mem_singleton.1 h]
      simp [String.append_eq_empty_iff]
    · exact ne_empty_of_mem_readEvent h

theorem ne_empty_of_readWrapped {destination : Address} {data : Bytes} {p : String}
    (h : readWrapped book interfaces destination data = .error p) : p ≠ "" := by
  unfold readWrapped at h
  split at h
  · cases h
    simp [String.append_eq_empty_iff]
  · split at h
    · cases h
      exact wrappedMessage_ne_empty _
    · cases h

theorem ne_empty_of_mem_problemsOfWrapped {wrapped : Option (Address × Bytes)} {p : String}
    (h : p ∈ problemsOfWrapped book interfaces wrapped) : p ≠ "" := by
  unfold problemsOfWrapped at h
  split at h
  · cases h
  · cases h
  · split at h
    · cases h
    · next hwrapped =>
      rw [List.mem_singleton.1 h]
      exact ne_empty_of_readWrapped hwrapped

theorem ne_empty_of_mem_problemsOfDetails {i : Abi.Interface} {input : Bytes}
    {logs : List LogEntry} {p : String} (h : p ∈ problemsOfDetails book interfaces i input logs) :
    p ≠ "" := by
  rcases List.mem_append.1 h with h | h
  · rcases List.mem_append.1 h with h | h
    · unfold problemsOfCall at h
      split at h
      · cases h
      · rw [List.mem_singleton.1 h]
        exact message_ne_empty _
    · obtain ⟨log, -, h⟩ := List.mem_flatMap.1 h
      exact ne_empty_of_mem_readLog h
  · exact ne_empty_of_mem_problemsOfWrapped h

theorem ne_empty_of_mem_problemsOf {info : TxInfo} {interface : Option Abi.Interface}
    {isContract : Bool} {p : String} (h : p ∈ problemsOf book interfaces info interface isContract) :
    p ≠ "" := by
  unfold problemsOf at h
  split at h
  · split at h
    · rw [List.mem_singleton.1 h]
      simp
    · exact ne_empty_of_mem_problemsOfDetails h
    · cases h
  · cases h

/-! ## Every analysis -/

/-- Calldata of a known method reaches behind its selector. -/
theorem four_le_length_of_bySelector {i : Abi.Interface} {data : Bytes} {m : Abi.Method}
    (h : i.bySelector data = .ok m) : 4 ≤ data.length := by
  unfold Abi.Interface.bySelector at h
  split at h
  · cases h
  · omega

theorem done_or_reverted_iff {info : TxInfo} :
    info.status = .done ∨ info.status = .reverted ↔ ∃ tx receipt, info = .mined tx receipt := by
  cases info with
  | mined tx receipt =>
    rw [TxInfo.status]
    split_ifs <;> simp
  | error | notFound | lost | pending => simp [TxInfo.status]

/-- **An analysis loses neither a plain field nor a problem.** For a mined transaction the plain
    fields are those that it was reported with, whatever is found out besides; of any other hash
    nothing is told but its state. The problems are those of call, logs and wrapped call, all of
    them and in this order. Arguments are only looked for in calldata that has a selector. -/
theorem ofInfo_keeps_all (book : AddressBook) (interfaces : InterfaceSource) (info : TxInfo)
    (interface : Option Abi.Interface) (isContract : Bool) :
    (info.status = .done ∨ info.status = .reverted →
      ∃ tx receipt, info = .mined tx receipt ∧
        (ofInfo book interfaces info interface isContract).plain =
          { hash := tx.hash
            status := info.status
            sender := some ⟨tx.sender, book.nameOf tx.sender⟩
            to_ := tx.to_.map fun to_ => ⟨to_, book.nameOf to_⟩
            value := some (Units.format tx.value Units.nativeDecimals)
            nonce := some tx.nonce
            gasPrice := some (Units.format (tx.gasPrice.setWidth 256) Units.gweiDecimals)
            gasLimit := some tx.gasLimit } ∧
        ∀ interfaces' interface' isContract' input logs,
          (ofInfo book interfaces' (.mined { tx with input } { receipt with logs }) interface'
            isContract').plain = (ofInfo book interfaces info interface isContract).plain) ∧
    (¬(info.status = .done ∨ info.status = .reverted) →
      ofInfo book interfaces info interface isContract =
        blank ((info.transaction?.map (·.hash)).getD .zero) info.status) ∧
    (ofInfo book interfaces info interface isContract).problems =
      "; ".intercalate (problemsOf book interfaces info interface isContract) ∧
    (∀ p ∈ problemsOf book interfaces info interface isContract, p ≠ "") ∧
    ∀ (i : Abi.Interface) (data : Bytes) (m : Abi.Method), i.bySelector data = .ok m →
      4 ≤ data.length := by
  refine ⟨fun hstatus => ?_, fun hstatus => ?_, ?_, fun p => ne_empty_of_mem_problemsOf,
    fun i data m => four_le_length_of_bySelector⟩
  · obtain ⟨tx, receipt, rfl⟩ := done_or_reverted_iff.1 hstatus
    refine ⟨tx, receipt, rfl, ?_, fun interfaces' interface' isContract' input logs => ?_⟩
    · rw [plain_ofInfo_mined]
      rfl
    · rw [plain_ofInfo_mined, plain_ofInfo_mined]
      rfl
  · cases info with
    | mined tx receipt => exact absurd (done_or_reverted_iff.2 ⟨tx, receipt, rfl⟩) hstatus
    | error | notFound | lost | pending => rfl
  · rw [problems_ofInfo, foldl_joinProblem_empty fun p => ne_empty_of_mem_problemsOf]

/-- A transaction without calldata and with one log, by an interface that offers nothing: both
    are complained of, and the amounts are still there. While it is pending nothing is told. -/
theorem ofInfo_keeps_all_of_one :
    let tx : ChainTransaction := ⟨.zero, .zero, some .zero, 7, 0, 21000, 0, [], some 1⟩
    let receipt : Receipt := ⟨.failure, 21000, [⟨.zero, [.zero], []⟩], some 1⟩
    let interfaces : InterfaceSource := fun a => .error (.unregistered a)
    let mined := ofInfo .empty interfaces (.mined tx receipt) (some .empty) true
    let pending := ofInfo .empty interfaces (.pending tx) (some .empty) true
    (mined.nonce = some 7 ∧ mined.gasLimit = some 21000 ∧ mined.status = .reverted) ∧
      mined.problems = "; ".intercalate
        [(Error.decode (.selector (.tooShort 0))).message,
          "Cannot find event of topic " ++ Hash.zero.text] ∧
      pending = blank .zero .pending := by
  intro tx receipt interfaces mined pending
  have hmined := ofInfo_keeps_all .empty interfaces (.mined tx receipt) (some .empty) true
  have hpending := ofInfo_keeps_all .empty interfaces (.pending tx) (some .empty) true
  refine ⟨?_, ?_, hpending.2.1 (by decide)⟩
  · obtain ⟨tx', receipt', heq, hplain, -⟩ := hmined.1 (.inr rfl)
    cases heq
    exact ⟨congrArg Plain.nonce hplain, congrArg Plain.gasLimit hplain, congrArg Plain.status hplain⟩
  · have hproblems : problemsOf .empty interfaces (.mined tx receipt) (some .empty) true =
        [(Error.decode (.selector (.tooShort 0))).message,
          "Cannot find event of topic " ++ Hash.zero.text] := rfl
    rw [← hproblems]
    exact hmined.2.2.1

end Analysis

end NodeFleet

/-
  Calls that a wallet of several owners is asked to make.

  * `ReadCall.Submits`: a call that hands a wallet another one, as names and values tell it
    (`wrapped?_eq_some_iff`).
  * `Abi.Interface.Wraps`: calldata that hands a wallet a call with calldata of its own.
  * `readWrapped_eq_ok_iff`: what can be read of a wrapped call, in terms of the call itself;
    `told_direct_iff`: what an analysis tells of a direct call, in the same terms.
  * `wrapped_agrees`: a wrapped call is told exactly as if it were made directly.
-/
import NodeFleet.Proofs.Calldata
import NodeFleet.Proofs.Logs

namespace NodeFleet

/-! ## Which call is wrapped -/

/-- A call hands a wallet another one: method and parameters have the names for it, and a
    destination and calldata stand where these names put them. -/
structure ReadCall.Submits (c : ReadCall) (destination : Address) (data : Bytes) : Prop where
  method : c.method.name = "submitTransaction"
  params : c.method.inputs.map (·.name) = ["destination", "value", "data"]
  destination : c.values[0]? = some (.address destination)
  data : c.values[2]? = some (.bytes data)

section
variable {c : ReadCall} {destination : Address} {data : Bytes}

theorem submits_values_iff {vs : List Abi.Value} :
    vs[0]? = some (.address destination) ∧ vs[2]? = some (.bytes data) ↔
      ∃ value rest, vs = .address destination :: value :: .bytes data :: rest := by
  constructor
  · rintro ⟨hfirst, hthird⟩
    match vs with
    | v :: value :: u :: rest =>
      cases hfirst
      cases hthird
      exact ⟨value, rest, rfl⟩
  · rintro ⟨value, rest, rfl⟩
    exact ⟨rfl, rfl⟩

theorem wrapped?_eq_some_iff :
    c.wrapped? = some (destination, data) ↔ c.Submits destination data := by
  unfold ReadCall.wrapped?
  constructor
  · intro h
    split_ifs at h with hnames
    split at h
    · next hvalues =>
      cases h
      obtain ⟨hfirst, hthird⟩ := submits_values_iff.2 ⟨_, _, hvalues⟩
      exact ⟨hnames.1, hnames.2, hfirst, hthird⟩
    · cases h
  · rintro ⟨hmethod, hparams, hfirst, hthird⟩
    obtain ⟨value, rest, hvalues⟩ := submits_values_iff.1 ⟨hfirst, hthird⟩
    rw [if_pos ⟨hmethod, hparams⟩, hvalues]

end

/-- Calldata hands a wallet a call that has calldata of its own. -/
def Abi.Interface.Wraps (i : Abi.Interface) (input : Bytes) (destination : Address)
    (data : Bytes) : Prop :=
  (∃ c, i.readCall input = .ok c ∧ c.Submits destination data) ∧ data ≠ []

theorem Abi.Interface.Wraps.unique {i : Abi.Interface} {input data data' : Bytes}
    {destination destination' : Address} (h : i.Wraps input destination data)
    (h' : i.Wraps input destination' data') : destination = destination' ∧ data = data' := by
  obtain ⟨⟨c, hcall, hsubmits⟩, -⟩ := h
  obtain ⟨⟨c', hcall', hsubmits'⟩, -⟩ := h'
  rw [hcall] at hcall'
  cases hcall'
  have heq := (wrapped?_eq_some_iff.2 hsubmits).symm.trans (wrapped?_eq_some_iff.2 hsubmits')
  cases heq
  exact ⟨rfl, rfl⟩

namespace Analysis

variable {book : AddressBook} {interfaces : InterfaceSource} {i inner : Abi.Interface}
  {input data : Bytes} {destination : Address}

/-! ## What is told of a wrapped call -/

/-- The call that is looked for behind the logs of a call. -/
def wrappedIn (i : Abi.Interface) (input : Bytes) : Option (Address × Bytes) :=
  (i.readCall input).toOption.bind (·.wrapped?)

theorem wrappedIn_eq_some_iff :
    wrappedIn i input = some (destination, data) ↔
      ∃ c, i.readCall input = .ok c ∧ c.Submits destination data := by
  unfold wrappedIn
  cases i.readCall input with
  | error p => simp [Except.toOption]
  | ok c => simp [Except.toOption, wrapped?_eq_some_iff]

theorem wrapped_addCall (a : Analysis) (book : AddressBook) (call : Except CallProblem ReadCall) :
    (a.addCall book call).wrapped = a.wrapped := by
  cases call <;> rfl

theorem wrapped_addLogs (a : Analysis) (rs : List LogReading) :
    (rs.foldl addLog a).wrapped = a.wrapped := by
  obtain ⟨events, problems, h⟩ := addLogs_eq a rs
  rw [h]

/-- The wrapped call that is told, if the calldata hands over one that can be read. -/
def readWrapped? (book : AddressBook) (interfaces : InterfaceSource) :
    Option (Address × Bytes) → Option WrappedCall
  | none | some (_, []) => none
  | some (destination, data) => (readWrapped book interfaces destination data).toOption

theorem wrapped_addWrapped (a : Analysis) (h : a.wrapped = none)
    (call : Option (Address × Bytes)) :
    (a.addWrapped book interfaces call).wrapped = readWrapped? book interfaces call := by
  rcases call with _ | ⟨destination, _ | ⟨b, bs⟩⟩
  · exact h
  · exact h
  · rcases hread : readWrapped book interfaces destination (b :: bs) with problem | call <;>
      simp only [addWrapped, readWrapped?, hread]
    · exact h
    · rfl

theorem wrapped_ofInfo {tx : ChainTransaction} {to_ : Address} (htx : tx.to_ = some to_)
    (receipt : Receipt) :
    (ofInfo book interfaces (.mined tx receipt) (some i) true).wrapped =
      readWrapped? book interfaces (wrappedIn i tx.input) := by
  rw [ofInfo_of_call book interfaces htx, addDetails]
  refine wrapped_addWrapped _ ?_ _
  rw [wrapped_addLogs, wrapped_addCall]
  rfl

/-- **What can be read of a wrapped call** is the call that its calldata makes. -/
theorem readWrapped_eq_ok_iff {call : WrappedCall} :
    readWrapped book interfaces destination data = .ok call ↔
      ∃ inner c, interfaces destination = .ok inner ∧ inner.readCall data = .ok c ∧
        call = ⟨book.named destination, c.method.name, c.params book⟩ := by
  unfold readWrapped
  cases interfaces destination with
  | error e => simp
  | ok inner =>
    cases hcall : inner.readCall data with
    | error p => simp [hcall]
    | ok c => simp [hcall, eq_comm]

theorem readWrapped?_eq_some_iff {call : WrappedCall} {w : Option (Address × Bytes)} :
    readWrapped? book interfaces w = some call ↔
      ∃ destination data, w = some (destination, data) ∧ data ≠ [] ∧
        readWrapped book interfaces destination data = .ok call := by
  rcases w with _ | ⟨destination, _ | ⟨b, bs⟩⟩
  · simp [readWrapped?]
  · simp [readWrapped?]
  · cases hread : readWrapped book interfaces destination (b :: bs) <;>
      simp [readWrapped?, hread, Except.toOption]

/-- A wrapped call that is told leaves no problem, one that is not leaves one. -/
theorem problemsOfWrapped_eq (h : data ≠ []) :
    problemsOfWrapped book interfaces (some (destination, data)) =
      match readWrapped book interfaces destination data with
      | .ok _ => []
      | .error problem => [problem] := by
  cases data with
  | nil => exact absurd rfl h
  | cons b bs => rfl

/-! ## What is told of a direct call -/

/-- **What an analysis tells of a direct call** without a problem is the call that its calldata
    makes. -/
theorem told_direct_iff {tx : ChainTransaction} {to_ : Address} (htx : tx.to_ = some to_)
    (receipt : Receipt) {method : String} {params : List DecodedParam} :
    ((ofInfo book interfaces (.mined tx receipt) (some i) true).method = some method ∧
        (ofInfo book interfaces (.mined tx receipt) (some i) true).params = params ∧
        problemsOfCall (i.readCall tx.input) = []) ↔
      ∃ c, i.readCall tx.input = .ok c ∧ c.method.name = method ∧ c.params book = params := by
  cases hcall : i.readCall tx.input with
  | error p => simp [problemsOfCall]
  | ok c =>
    have htx' : tx.to_.isSome = true := by rw [htx]; rfl
    obtain ⟨hmethod, hparams⟩ := ofInfo_of_readCall book interfaces htx' receipt hcall
    rw [hmethod, hparams]
    simp [problemsOfCall]

/-! ## Both -/

/-- The problems of call and logs. -/
def problemsBefore (book : AddressBook) (i : Abi.Interface) (input : Bytes)
    (logs : List LogEntry) : List String :=
  problemsOfCall (i.readCall input) ++ logs.flatMap fun log => (readLog book i log).problems

section
variable {tx : ChainTransaction} {to_ : Address} {receipt : Receipt}

theorem wrapped_eq_some_iff (htx : tx.to_ = some to_) {call : WrappedCall} :
    (ofInfo book interfaces (.mined tx receipt) (some i) true).wrapped = some call ↔
      ∃ destination data, i.Wraps tx.input destination data ∧
        readWrapped book interfaces destination data = .ok call := by
  simp only [wrapped_ofInfo htx, readWrapped?_eq_some_iff, wrappedIn_eq_some_iff,
    Abi.Interface.Wraps, and_assoc]

/-- The problems of an analysis end with that of the wrapped call. -/
theorem problems_eq (htx : tx.to_ = some to_) :
    (ofInfo book interfaces (.mined tx receipt) (some i) true).problems =
      "; ".intercalate (problemsBefore book i tx.input receipt.logs ++
        problemsOfWrapped book interfaces (wrappedIn i tx.input)) :=
  problems_ofLogs book interfaces i receipt htx receipt.logs

theorem problemsOfWrapped_of_wraps {input data : Bytes} (h : i.Wraps input destination data) :
    problemsOfWrapped book interfaces (wrappedIn i input) =
      match readWrapped book interfaces destination data with
      | .ok _ => []
      | .error problem => [problem] := by
  rw [wrappedIn_eq_some_iff.2 h.1]
  exact problemsOfWrapped_eq h.2

theorem problemsOfWrapped_of_not_wraps {input : Bytes}
    (h : ¬∃ destination data, i.Wraps input destination data) :
    problemsOfWrapped book interfaces (wrappedIn i input) = [] := by
  rcases hw : wrappedIn i input with _ | ⟨destination, _ | ⟨b, bs⟩⟩
  · rfl
  · rfl
  · exact absurd ⟨destination, b :: bs, wrappedIn_eq_some_iff.1 hw, by simp⟩ h

/-- A call that is handed over to a contract with an interface is told as its calldata reads. -/
theorem wrapped_eq_some_iff_readCall (htx : tx.to_ = some to_) {data : Bytes}
    {inner : Abi.Interface} (hwraps : i.Wraps tx.input destination data)
    (hinner : interfaces destination = .ok inner) {method : String} {params : List DecodedParam} :
    (ofInfo book interfaces (.mined tx receipt) (some i) true).wrapped =
        some ⟨book.named destination, method, params⟩ ↔
      ∃ c, inner.readCall data = .ok c ∧ c.method.name = method ∧ c.params book = params := by
  rw [wrapped_eq_some_iff htx]
  constructor
  · rintro ⟨destination', data', hwraps', hread⟩
    obtain ⟨rfl, rfl⟩ := hwraps.unique hwraps'
    obtain ⟨inner', c, hinner', hcall, heq⟩ := readWrapped_eq_ok_iff.1 hread
    rw [hinner] at hinner'
    cases hinner'
    cases heq
    exact ⟨c, hcall, rfl, rfl⟩
  · rintro ⟨c, hcall, rfl, rfl⟩
    exact ⟨destination, data, hwraps, readWrapped_eq_ok_iff.2 ⟨inner, c, hinner, hcall, rfl⟩⟩

/-- There is no problem with a wrapped call that is told, and none if there is no wrapped call. -/
theorem problemsOfWrapped_eq_nil (htx : tx.to_ = some to_)
    (h : (ofInfo book interfaces (.mined tx receipt) (some i) true).wrapped ≠ none ∨
      ¬∃ destination data, i.Wraps tx.input destination data) :
    problemsOfWrapped book interfaces (wrappedIn i tx.input) = [] := by
  rcases h with htold | hnot
  · obtain ⟨call, hcall⟩ := Option.ne_none_iff_exists'.1 htold
    obtain ⟨destination, data, hwraps, hread⟩ := (wrapped_eq_some_iff htx).1 hcall
    rw [problemsOfWrapped_of_wraps hwraps, hread]
  · exact problemsOfWrapped_of_not_wraps hnot

end

/-- **A wrapped call is told exactly as if it were made directly.** Of a mined call of a contract
with an interface,

* a wrapped call is told only if the call hands a wallet another one, with calldata, and the
  interface of its destination is there;
* if that is so, then a method and parameters are told of the wrapped call just if they are told,
  by the same interface, of a direct call of the destination with this calldata, and that call is
  no problem;
* a call handed over that is not told leaves one problem behind those of call and logs, and
  nothing else leaves any there. -/
theorem wrapped_agrees (book : AddressBook) (interfaces : InterfaceSource) (i : Abi.Interface)
    {tx : ChainTransaction} {to_ : Address} (htx : tx.to_ = some to_) (receipt : Receipt) :
    let a := ofInfo book interfaces (.mined tx receipt) (some i) true
    let problems := problemsBefore book i tx.input receipt.logs
    (∀ call, a.wrapped = some call → ∃ destination data inner, i.Wraps tx.input destination data ∧
      interfaces destination = .ok inner ∧
      call.contract = ⟨destination, book.nameOf destination⟩) ∧
    (∀ destination data inner, i.Wraps tx.input destination data →
      interfaces destination = .ok inner →
      ∀ interfaces' tx' receipt', tx'.to_ = some destination → tx'.input = data →
        let direct := ofInfo book interfaces' (.mined tx' receipt') (some inner) true
        ∀ method params,
          a.wrapped = some ⟨⟨destination, book.nameOf destination⟩, method, params⟩ ↔
            direct.method = some method ∧ direct.params = params ∧
              problemsOfCall (inner.readCall data) = []) ∧
    (a.wrapped = none → (∃ destination data, i.Wraps tx.input destination data) →
      ∃ problem, problem ≠ "" ∧ a.problems = "; ".intercalate (problems ++ [problem])) ∧
    ((a.wrapped ≠ none ∨ ¬∃ destination data, i.Wraps tx.input destination data) →
      a.problems = "; ".intercalate problems) := by
  intro a problems
  refine ⟨fun call hcall => ?_, fun destination data inner hwraps hinner => ?_,
    fun hnone hwraps => ?_, fun h => ?_⟩
  · obtain ⟨destination, data, hwraps, hread⟩ := (wrapped_eq_some_iff htx).1 hcall
    obtain ⟨inner, c, hinner, -, rfl⟩ := readWrapped_eq_ok_iff.1 hread
    exact ⟨destination, data, inner, hwraps, hinner, rfl⟩
  · intro interfaces' tx' receipt' htx' hinput direct method params
    have hdirect : (direct.method = some method ∧ direct.params = params ∧
        problemsOfCall (inner.readCall tx'.input) = []) ↔
        ∃ c, inner.readCall tx'.input = .ok c ∧ c.method.name = method ∧ c.params book = params :=
      told_direct_iff htx' receipt'
    rw [hinput] at hdirect
    rw [hdirect]
    exact wrapped_eq_some_iff_readCall htx hwraps hinner
  · obtain ⟨destination, data, hwraps⟩ := hwraps
    cases hread : readWrapped book interfaces destination data with
    | ok call =>
      have hsome : a.wrapped = some call := (wrapped_eq_some_iff htx).2 ⟨_, _, hwraps, hread⟩
      rw [hnone] at hsome
      cases hsome
    | error problem =>
      refine ⟨problem, ne_empty_of_readWrapped hread, ?_⟩
      rw [problems_eq htx, problemsOfWrapped_of_wraps hwraps, hread]
  · rw [problems_eq htx, problemsOfWrapped_eq_nil htx h, List.append_nil]

end Analysis

/-- The method by which a wallet of several owners is handed a call. -/
def Abi.Method.submit : Abi.Method :=
  ⟨"submitTransaction", [⟨"destination", "address", []⟩, ⟨"value", "uint256", []⟩,
    ⟨"data", "bytes", []⟩], []⟩

/-- Calldata that hands a wallet a call. -/
def Abi.submission (destination : Address) (value : Word) (data : Bytes) : Bytes :=
  Method.submit.selector.toBytes ++
    encode [.address destination, .uint value 256, .bytes data]

theorem Abi.types_submit :
    Method.submit.inputs.map (·.resolve) = [.ok .address, .ok (.uint 256), .ok .bytes] := by
  simp only [Method.submit, List.map_cons, List.map_nil, Param.resolve_uint256,
    Param.resolve_address, Param.resolve_bytes]

theorem Abi.readable_submit : Method.submit.Readable := by
  intro p hp t ht
  have hmem : Except.ok t ∈ Method.submit.inputs.map (·.resolve) := ht ▸ List.mem_map_of_mem hp
  rw [types_submit] at hmem
  simp only [List.mem_cons, Except.ok.injEq, List.not_mem_nil, or_false] at hmem
  rcases hmem with rfl | rfl | rfl <;> decide

/-- A wallet reads what it is handed. -/
theorem Abi.readCall_submission {destination : Address} {value : Word} {data : Bytes}
    (hsize : (submission destination value data).length < twoTo 64) :
    Interface.readCall ⟨[Method.submit], []⟩ (submission destination value data) =
      .ok ⟨Method.submit, [.address destination, .uint value 256, .bytes data]⟩ := by
  have hcheck : checkEach (Method.submit.inputs.map (·.resolve))
      [.address destination, .uint value 256, .bytes data] = .ok () := by
    rw [types_submit]
    rfl
  have hdata : Method.submit.encodeInput [.address destination, .uint value 256, .bytes data] =
      .ok (submission destination value data) := by
    rw [Method.encodeInput, encodeChecked, hcheck]
    rfl
  exact Interface.readCall_of_encodeInput (List.nodup_singleton _) (List.mem_singleton.2 rfl)
    readable_submit rfl hdata hsize

namespace Analysis

/-- A wallet is handed a call of a method without parameters, and the interface of the destination
    offers it. -/
theorem wrapped_agrees_of_ping :
    let ping : Abi.Method := ⟨"ping", [], []⟩
    let tx : ChainTransaction := ⟨.zero, .zero, some .zero, 7, 0, 21000, 0,
      Abi.submission .zero 5 ping.selector.toBytes, some 1⟩
    let receipt : Receipt := ⟨.success, 21000, [], some 1⟩
    let interfaces : InterfaceSource := fun _ => .ok ⟨[ping], []⟩
    (ofInfo .empty interfaces (.mined tx receipt) (some ⟨[.submit], []⟩) true).wrapped =
        some ⟨⟨.zero, AddressBook.empty.nameOf .zero⟩, "ping", []⟩ ∧
      (ofInfo .empty interfaces (.mined tx receipt) (some ⟨[.submit], []⟩) true).problems = "" := by
  intro ping tx receipt interfaces
  have hselector : ping.selector.toBytes.length = 4 := length_beBytes 4 _
  have hping : Abi.Interface.readCall ⟨[ping], []⟩ ping.selector.toBytes = .ok ⟨ping, []⟩ := by
    have hdata : ping.encodeInput [] = .ok ping.selector.toBytes := by
      rw [Abi.Method.encodeInput]
      exact congrArg Except.ok (List.append_nil _)
    exact Abi.Interface.readCall_of_encodeInput (List.nodup_singleton _) (List.mem_singleton.2 rfl)
      (fun p hp => absurd hp List.not_mem_nil) rfl hdata (by rw [hselector]; decide)
  have hlength : tx.input.length = 164 := by
    simp [tx, Abi.submission, Abi.encode, Abi.assemble, Abi.parts, Abi.Value.isDynamic,
      Abi.Value.put, Abi.heads, Abi.tails, Abi.headsSize, Abi.Part.headSize, Abi.putBytes,
      Abi.padRight, wordBytes, Selector.toBytes]
  have hsize : tx.input.length < twoTo 64 := by
    rw [hlength]
    decide
  have hsubmit : Abi.Interface.readCall ⟨[.submit], []⟩ tx.input =
      .ok ⟨.submit, [.address .zero, .uint 5 256, .bytes ping.selector.toBytes]⟩ :=
    Abi.readCall_submission hsize
  have hwraps : Abi.Interface.Wraps ⟨[.submit], []⟩ tx.input .zero ping.selector.toBytes :=
    ⟨⟨_, hsubmit, rfl, rfl, rfl, rfl⟩, List.ne_nil_of_length_pos (by rw [hselector]; decide)⟩
  have htx : tx.to_ = some .zero := rfl
  obtain ⟨-, hagrees, -, hquiet⟩ := wrapped_agrees .empty interfaces ⟨[.submit], []⟩ htx receipt
  have htold : (ofInfo .empty interfaces (.mined tx receipt) (some ⟨[.submit], []⟩) true).wrapped =
      some ⟨⟨.zero, AddressBook.empty.nameOf .zero⟩, "ping", []⟩ := by
    let tx' : ChainTransaction := { tx with input := ping.selector.toBytes }
    have htx' : tx'.to_.isSome = true := rfl
    have hdirect := ofInfo_of_readCall .empty interfaces htx' receipt hping
    refine (hagrees _ _ ⟨[ping], []⟩ hwraps rfl interfaces tx' receipt rfl rfl _ _).2
      ⟨hdirect.1, hdirect.2, ?_⟩
    rw [hping]
    rfl
  refine ⟨htold, ?_⟩
  rw [hquiet (.inl (by simp [htold])), problemsBefore, hsubmit]
  rfl

end Analysis

end NodeFleet

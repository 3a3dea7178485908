/-
  Calls are read back from their calldata.

  * `Interface.find?_selector`: a method is found by its selector, if no two methods share one.
  * `Interface.find?_of_method`: the overload that is called.
  * `exists_types_of_checkEach`: arguments that are encoded are of the declared types.
  * `Method.Readable`: a method with inputs of filled types with room for their frames.
  * `encodeCall_read_back`: the method and the arguments of encoded calldata are found again, and
    they are what an analysis tells of a call with it.
-/
import NodeFleet.Proofs.Analysis
import NodeFleet.Proofs.Codec
import Mathlib.Data.List.Nodup

namespace NodeFleet

/-- What is looked for by a key that no two share is found. -/
theorem find?_of_nodup_map {α β : Type} [BEq β] [LawfulBEq β] {key : α → β} {l : List α} {a : α}
    (hkeys : (l.map key).Nodup) (ha : a ∈ l) : l.find? (key · == key a) = some a := by
  rcases hfind : l.find? (key · == key a) with _ | b
  · have hnone := List.find?_eq_none.1 hfind a ha
    simp at hnone
  · have hkey : key b = key a := by simpa using List.find?_some hfind
    rw [List.inj_on_of_nodup_map hkeys (List.mem_of_find?_eq_some hfind) ha hkey]

/-- Every value stands under one parameter. -/
theorem map_value_namedValuesFrom (book : AddressBook) {ps : List Abi.Param} {vs : List Abi.Value}
    (h : ps.length = vs.length) (place : Nat) :
    (namedValuesFrom book place ps vs).map (·.value) = vs.map (·.render book) := by
  induction ps generalizing vs place with
  | nil =>
    obtain rfl := List.length_eq_zero_iff.1 h.symm
    rfl
  | cons p ps ih =>
    rcases vs with _ | ⟨v, vs⟩
    · cases h
    · rw [namedValuesFrom, List.map_cons, List.map_cons, ih (Nat.succ.inj h)]

/-- An analysis tells the call that can be read. -/
theorem Analysis.ofInfo_of_readCall (book : AddressBook) (interfaces : InterfaceSource)
    {tx : ChainTransaction} (htx : tx.to_.isSome = true) (receipt : Receipt) {i : Abi.Interface}
    {c : ReadCall} (hcall : i.readCall tx.input = .ok c) :
    (ofInfo book interfaces (.mined tx receipt) (some i) true).method = some c.method.name ∧
      (ofInfo book interfaces (.mined tx receipt) (some i) true).params = c.params book := by
  obtain ⟨to_, hto⟩ := Option.isSome_iff_exists.1 htx
  rw [ofInfo_of_call book interfaces hto]
  obtain ⟨events, wrapped, problems, h⟩ := addDetails_eq
    { ofTransaction book (TxInfo.mined tx receipt).status tx with
      kind := some .contractCall
      contract := some (book.named to_) } book interfaces i tx.input receipt.logs
  rw [h, hcall]
  exact ⟨rfl, rfl⟩

namespace Abi

/-! ## The method -/

namespace Interface

variable {i : Interface} {m : Method}

theorem find?_selector (hselectors : (i.methods.map (·.selector)).Nodup) (hm : m ∈ i.methods) :
    i.methods.find? (·.selector == m.selector) = some m :=
  find?_of_nodup_map hselectors hm

theorem bySelector_append (hselectors : (i.methods.map (·.selector)).Nodup) (hm : m ∈ i.methods)
    (rest : Bytes) : i.bySelector (m.selector.toBytes ++ rest) = .ok m := by
  have hlength : m.selector.toBytes.length = 4 := length_beBytes 4 _
  have htake : (m.selector.toBytes ++ rest).take 4 = m.selector.toBytes := by
    rw [← hlength, List.take_left]
  have hlong : ¬(m.selector.toBytes ++ rest).length < 4 := by
    rw [List.length_append]
    omega
  simp only [bySelector, if_neg hlong, htake, Selector.ofBytes_toBytes,
    find?_selector hselectors hm]

/-- The overload that is called is the first one of the name with so many inputs. -/
theorem find?_of_method {name : String} {n : Nat} (h : i.method name n = .ok m) :
    i.methods.find? (fun m => m.name == name && m.inputs.length == n) = some m := by
  have hfilter : i.methods.find? (fun m => m.name == name && m.inputs.length == n) =
      (i.overloads name).find? (·.inputs.length == n) := by
    rw [overloads, List.find?_filter]
    simp only [Bool.decide_and, Bool.decide_eq_true]
  rw [hfilter]
  unfold method at h
  split at h
  · cases h
  · next hms =>
    split at h
    · next hfind =>
      cases h
      rw [hms]
      exact hfind
    · cases h

end Interface

/-! ## The arguments -/

theorem Param.resolve_address (name : String) :
    Param.resolve ⟨name, "address", []⟩ = .ok .address := by cbv

theorem Param.resolve_bytes (name : String) : Param.resolve ⟨name, "bytes", []⟩ = .ok .bytes := by
  cbv

theorem Param.resolve_string (name : String) :
    Param.resolve ⟨name, "string", []⟩ = .ok .string := by cbv

theorem Ty.ofName_uint256 : Ty.ofName "uint256" = .ok (.uint 256) := by
  -- types cannot be compared, but of all types only this one has such a value
  have h : (Ty.ofName "uint256").toOption.any (·.admits (.uint 0 256)) = true := by decide +kernel
  cases hname : Ty.ofName "uint256" with
  | error e =>
    rw [hname] at h
    cases h
  | ok t =>
    rw [hname] at h
    cases t <;> simp [Except.toOption, Ty.admits] at h
    rw [h]

theorem Param.resolve_uint256 (name : String) :
    Param.resolve ⟨name, "uint256", []⟩ = .ok (.uint 256) := by
  have hspec : Spec.parse? "uint256" = some (.named "uint256" []) := by cbv
  rw [Param.resolve, hspec]
  simp only [Spec.resolve, Ty.ofName_uint256]
  rfl

theorem exists_types_of_checkEach {rs : List (Except TypeError Ty)} {vs : List Value}
    (h : checkEach rs vs = .ok ()) (hlength : rs.length = vs.length) :
    ∃ ts : List Ty, rs = ts.map .ok ∧ List.Forall₂ (fun t v => t.admits v = true) ts vs := by
  induction rs generalizing vs with
  | nil =>
    obtain rfl := List.length_eq_zero_iff.1 hlength.symm
    exact ⟨[], rfl, .nil⟩
  | cons r rs ih =>
    rcases vs with _ | ⟨v, vs⟩
    · cases hlength
    · rcases r with e | t
      · cases h
      · rw [checkEach] at h
        split at h
        · next hv =>
          obtain ⟨ts, rfl, hts⟩ := ih h (Nat.succ.inj hlength)
          exact ⟨t :: ts, rfl, .cons hv hts⟩
        · cases h

/-- Arguments of the method can be read: no input has an empty part, and none is nested too
    deep. -/
def Method.Readable (m : Method) : Prop :=
  ∀ p ∈ m.inputs, ∀ t, p.resolve = .ok t → t.filled = true ∧ t.frames ≤ maxDepth

theorem Method.decodeInput_of_encodeInput {m : Method} {args : List Value} {data : Bytes}
    (hm : m.Readable) (hlength : m.inputs.length = args.length)
    (hdata : m.encodeInput args = .ok data) (hsize : data.length < twoTo 64) :
    data = m.selector.toBytes ++ encode args ∧ m.decodeInput (data.drop 4) = .ok args := by
  unfold encodeInput encodeChecked at hdata
  rcases hcheck : checkEach (m.inputs.map (·.resolve)) args with e | ⟨⟩
  · rw [hcheck] at hdata
    cases hdata
  · rw [hcheck] at hdata
    cases hdata
    obtain ⟨ts, hts, hargs⟩ := exists_types_of_checkEach hcheck (by rw [List.length_map, hlength])
    have hdrop : (m.selector.toBytes ++ encode args).drop 4 = encode args := by
      have hfour : m.selector.toBytes.length = 4 := length_beBytes 4 _
      rw [← hfour, List.drop_left]
    have hreadable : ∀ t ∈ ts, t.filled = true ∧ t.frames ≤ maxDepth := by
      intro t ht
      have hmem : Except.ok t ∈ m.inputs.map (·.resolve) := by
        rw [hts]
        exact List.mem_map_of_mem ht
      obtain ⟨p, hp, hresolve⟩ := List.mem_map.1 hmem
      exact hm p hp t hresolve
    have hlong : (m.selector.toBytes ++ encode args).length < twoTo 64 := hsize
    rw [List.length_append] at hlong
    refine ⟨rfl, ?_⟩
    change m.decodeInput ((m.selector.toBytes ++ encode args).drop 4) = _
    rw [decodeInput, hdrop, hts]
    exact decode_of_encode hreadable hargs (by omega) (List.prefix_refl _)

/-! ## Calls -/

/-- Calldata of a method with arguments is the call that it makes. -/
theorem Interface.readCall_of_encodeInput {i : Interface} {m : Method} {args : List Value}
    {data : Bytes} (hselectors : (i.methods.map (·.selector)).Nodup) (hmem : m ∈ i.methods)
    (hm : m.Readable) (hlength : m.inputs.length = args.length)
    (hdata : m.encodeInput args = .ok data) (hsize : data.length < twoTo 64) :
    i.readCall data = .ok ⟨m, args⟩ := by
  obtain ⟨rfl, hdecode⟩ := Method.decodeInput_of_encodeInput hm hlength hdata hsize
  rw [readCall, bySelector_append hselectors hmem]
  simp only [hdecode]

/-- **A call is read back from its calldata**: the first overload of the name that takes so many
    arguments, and exactly the arguments. An analysis of a mined call with this calldata tells the
    method, and the values under its parameters. Calldata that is in memory is shorter than
    `twoTo 64`, and so its offsets and lengths are indices. -/
theorem encodeCall_read_back {i : Interface} {name : String} {args : List Value} {data : Bytes}
    (hselectors : (i.methods.map (·.selector)).Nodup)
    (hreadable : ∀ m, i.method name args.length = .ok m → m.Readable)
    (hdata : i.encodeCall name args = .ok data) (hsize : data.length < twoTo 64) :
    ∃ m, i.methods.find? (fun m => m.name == name && m.inputs.length == args.length) = some m ∧
      i.bySelector data = .ok m ∧ m.decodeInput (data.drop 4) = .ok args ∧
      ∀ (book : AddressBook) (interfaces : InterfaceSource) (tx : ChainTransaction)
        (receipt : Receipt), tx.to_.isSome = true → tx.input = data →
        let a := Analysis.ofInfo book interfaces (.mined tx receipt) (some i) true
        a.method = some name ∧ a.params = namedValues book m.inputs args ∧
          a.params.map (·.value) = args.map (·.render book) := by
  unfold Interface.encodeCall at hdata
  rcases hmethod : i.method name args.length with e | m
  · rw [hmethod] at hdata
    cases hdata
  · rw [hmethod] at hdata
    have hfind := Interface.find?_of_method hmethod
    have hmem := List.mem_of_find?_eq_some hfind
    obtain ⟨hname, hlength⟩ : m.name = name ∧ m.inputs.length = args.length := by
      simpa using List.find?_some hfind
    obtain ⟨rfl, hdecode⟩ :=
      Method.decodeInput_of_encodeInput (hreadable m hmethod) hlength hdata hsize
    have hselector := Interface.bySelector_append hselectors hmem (encode args)
    refine ⟨m, hfind, hselector, hdecode, fun book interfaces tx receipt hto hinput => ?_⟩
    have hcall : i.readCall tx.input = .ok ⟨m, args⟩ := by
      rw [hinput, Interface.readCall, hselector]
      simp only [hdecode]
    obtain ⟨hmethodName, hparams⟩ := Analysis.ofInfo_of_readCall book interfaces hto receipt hcall
    refine ⟨hname ▸ hmethodName, hparams, ?_⟩
    rw [hparams]
    exact map_value_namedValuesFrom book hlength 0

/-- A list of records of a byte string and a truth value, and an address. -/
theorem encodeCall_read_back_of_records :
    let m : Method := ⟨"pay", [⟨"rows", "tuple[]", [⟨"note", "bytes", []⟩, ⟨"paid", "bool", []⟩]⟩,
      ⟨"payer", "address", []⟩], []⟩
    let i : Interface := ⟨[m], []⟩
    let args : List Value := [.array [.tuple [.bytes [1, 2], .bool true],
      .tuple [.bytes [], .bool false]], .address .zero]
    let data := m.selector.toBytes ++ encode args
    i.encodeCall "pay" args = .ok data ∧ i.bySelector data = .ok m ∧
      m.decodeInput (data.drop 4) = .ok args := by
  intro m i args data
  have hmethod : i.method "pay" args.length = .ok m := by cbv
  have htypes : m.inputs.map (·.resolve) =
      [.ok (.array (.tuple [.bytes, .bool])), .ok .address] := by cbv
  have hencode : i.encodeCall "pay" args = .ok data := by
    have hcheck : checkEach (m.inputs.map (·.resolve)) args = .ok () := by
      rw [htypes]
      rfl
    rw [Interface.encodeCall, hmethod]
    change m.encodeInput args = .ok data
    rw [Method.encodeInput, encodeChecked, hcheck]
    rfl
  have hsize : data.length < twoTo 64 := by
    have hargs : (encode args).length = 384 := by decide +kernel
    rw [List.length_append, hargs, Selector.toBytes, length_beBytes]
    decide
  have hreadable : ∀ m', i.method "pay" args.length = .ok m' → m'.Readable := by
    intro m' hm'
    obtain rfl : m = m' := Except.ok.inj (hmethod.symm.trans hm')
    intro p hp t ht
    have hmem : Except.ok t ∈ m.inputs.map (·.resolve) := ht ▸ List.mem_map_of_mem hp
    rw [htypes] at hmem
    simp only [List.mem_cons, Except.ok.injEq, List.not_mem_nil, or_false] at hmem
    rcases hmem with rfl | rfl <;> decide
  have hselectors : (i.methods.map (·.selector)).Nodup := List.nodup_singleton _
  obtain ⟨m', hfind, hselector, hdecode, -⟩ :=
    encodeCall_read_back hselectors hreadable hencode hsize
  obtain rfl : m' = m := List.mem_singleton.1 (List.mem_of_find?_eq_some hfind)
  exact ⟨hencode, hselector, hdecode⟩

end Abi

end NodeFleet

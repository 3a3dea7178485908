/-
  Calldata of the standard token methods, and what is read in it.

  * `Abi.WordArg`: an argument that takes one word, as a value, as a word and with its type.
  * `Abi.Method.Declares`, `Abi.Interface.Offers`: methods with plain inputs, and interfaces where
    a call by name means such a method.
  * `Method.Declares.encodeInput_eq`, `Interface.encodeCall_of_offers`, `readCall_of_declares`:
    calldata that is written word by word is what the declared method encodes to, and is read as
    a call of it.
  * `Token.calls_agree`: so with balances, allowances and transfers.
-/
import NodeFleet.Proofs.Calldata
import NodeFleet.Token

namespace NodeFleet

theorem Token.length_calldata (signature : String) (ws : List Word) :
    (Token.calldata signature ws).length = 4 + 32 * ws.length := by
  have hwords : (ws.flatMap wordBytes).length = 32 * ws.length := by
    induction ws with
    | nil => rfl
    | cons w ws ih =>
      rw [List.flatMap_cons, List.length_append, ih, wordBytes, length_beBytes, List.length_cons]
      omega
  rw [Token.calldata, List.length_append, List.length_take, Keccak.length_keccak256, hwords]
  rfl

namespace Abi

/-! ## Arguments -/

/-- An argument of the token methods. It takes one word. -/
inductive WordArg where
  | address (a : Address)
  | amount (w : Word)

namespace WordArg

def value : WordArg → Value
  | address a => .address a
  | amount w => .uint w 256

def type : WordArg → String
  | address _ => "address"
  | amount _ => "uint256"

def word : WordArg → Word
  | address a => a.toWord
  | amount w => w

def ty : WordArg → Ty
  | address _ => .address
  | amount _ => .uint 256

theorem resolve_eq {p : Param} {x : WordArg} (htype : p.type = x.type)
    (hplain : p.components = []) : p.resolve = .ok x.ty := by
  obtain ⟨name, _, _⟩ := p
  obtain rfl := htype
  obtain rfl := hplain
  cases x with
  | address a => exact Param.resolve_address name
  | amount w => exact Param.resolve_uint256 name

theorem readable_ty (x : WordArg) : x.ty.filled = true ∧ x.ty.frames ≤ maxDepth := by
  cases x with
  | address a => exact (by decide : Ty.address.filled = true ∧ Ty.address.frames ≤ maxDepth)
  | amount w => exact (by decide : (Ty.uint 256).filled = true ∧ (Ty.uint 256).frames ≤ maxDepth)

theorem checkEach_eq (xs : List WordArg) :
    checkEach (xs.map fun x => .ok x.ty) (xs.map value) = .ok () := by
  induction xs with
  | nil => rfl
  | cons x xs ih =>
    rw [List.map_cons, List.map_cons, checkEach, ih, if_pos]
    cases x <;> rfl

/-- Arguments stand in place, so there is nothing behind them. -/
theorem encode_map_value (xs : List WordArg) :
    encode (xs.map value) = (xs.map word).flatMap wordBytes := by
  have hparts (x : WordArg) (rest : List Value) :
      parts (x.value :: rest) = .inPlace (wordBytes x.word) :: parts rest := by
    cases x <;> rfl
  have hheads (offset : ℕ) : heads offset (parts (xs.map value)) =
      (xs.map word).flatMap wordBytes := by
    induction xs with
    | nil => rfl
    | cons x xs ih => rw [List.map_cons, hparts, heads, ih, List.map_cons, List.flatMap_cons]
  have htails : tails (parts (xs.map value)) = [] := by
    refine tails_eq_nil ?_
    clear hheads
    induction xs with
    | nil => rfl
    | cons x xs ih =>
      rw [List.map_cons, anyDynamic, ih, Bool.or_false]
      cases x <;> rfl
  rw [encode, assemble, hheads, htails, List.append_nil]

end WordArg

/-! ## Methods -/

/-- A method has a name and inputs of these types, none of which is a record. -/
structure Method.Declares (m : Method) (name : String) (types : List String) : Prop where
  name : m.name = name
  types : m.inputs.map (·.type) = types
  plain : ∀ p ∈ m.inputs, p.components = []

/-- How a name and types are written. -/
def plainSignature (name : String) (types : List String) : String :=
  name ++ "(" ++ String.intercalate "," types ++ ")"

namespace Method.Declares

variable {m : Method} {name : String} {types : List String} {xs : List WordArg}

theorem typeTexts_eq {ps : List Param} (h : ∀ p ∈ ps, p.components = []) :
    typeTexts ps = ps.map (·.type) := by
  induction ps with
  | nil => rfl
  | cons p ps ih =>
    obtain ⟨hp, hps⟩ := List.forall_mem_cons.1 h
    rcases p with ⟨_, _, _ | _⟩
    · rw [typeTexts, Param.typeText, ih hps, List.map_cons]
    · cases hp

theorem signature_eq (hm : m.Declares name types) : m.signature = plainSignature name types := by
  rw [signature, signatureOf, typeTexts_eq hm.plain, hm.name, hm.types, plainSignature]

theorem toBytes_selector (hm : m.Declares name types) : m.selector.toBytes =
    (Keccak.keccak256 (Utf8.encode (plainSignature name types))).take 4 := by
  rw [selector, Selector.toBytes_ofBytes, hm.signature_eq]
  rw [List.length_take, Keccak.length_keccak256]
  rfl

/-- Calldata that is written word by word begins with the selector of the method. -/
theorem selector_eq (hm : m.Declares name types) (ws : List Word) : m.selector =
    Selector.ofBytes ((Token.calldata (plainSignature name types) ws).take 4) := by
  have hlength :
      ((Keccak.keccak256 (Utf8.encode (plainSignature name types))).take 4).length = 4 := by
    rw [List.length_take, Keccak.length_keccak256]
    rfl
  rw [selector, hm.signature_eq, Token.calldata, List.take_append_of_le_length hlength.ge,
    List.take_take, Nat.min_self]

theorem length_eq (xs : List WordArg) (hm : m.Declares name (xs.map (·.type))) :
    m.inputs.length = xs.length := by
  simpa using congrArg List.length hm.types

/-- The inputs are of the types of the arguments. -/
theorem map_resolve_eq (hm : m.Declares name (xs.map (·.type))) :
    m.inputs.map (·.resolve) = xs.map fun x => .ok x.ty := by
  obtain ⟨-, htypes, hplain⟩ := hm
  generalize m.inputs = ps at htypes hplain
  induction xs generalizing ps with
  | nil =>
    obtain rfl := List.map_eq_nil_iff.1 htypes
    rfl
  | cons x xs ih =>
    obtain ⟨p, ps, rfl, htype, htypes⟩ := List.map_eq_cons_iff.1 htypes
    obtain ⟨hp, hps⟩ := List.forall_mem_cons.1 hplain
    rw [List.map_cons, List.map_cons, WordArg.resolve_eq htype hp, ih ps htypes hps]

theorem readable (hm : m.Declares name (xs.map (·.type))) : m.Readable := by
  intro p hp t ht
  have hmem : Except.ok t ∈ m.inputs.map (·.resolve) := ht ▸ List.mem_map_of_mem hp
  rw [hm.map_resolve_eq] at hmem
  obtain ⟨x, -, hx⟩ := List.mem_map.1 hmem
  obtain rfl := Except.ok.inj hx
  exact x.readable_ty

/-- Calldata that is written word by word is what the method encodes to. -/
theorem encodeInput_eq (hm : m.Declares name (xs.map (·.type))) :
    m.encodeInput (xs.map (·.value)) =
      .ok (Token.calldata (plainSignature name (xs.map (·.type))) (xs.map (·.word))) := by
  rw [encodeInput, encodeChecked, hm.map_resolve_eq, WordArg.checkEach_eq, Except.map,
    hm.toBytes_selector, WordArg.encode_map_value, Token.calldata]

end Method.Declares

/-! ## Interfaces -/

namespace Interface

variable {i : Interface} {m : Method} {name : String} {types : List String}

/-- A call by this name with so many arguments means a method that declares these types. -/
def Offers (i : Interface) (name : String) (types : List String) : Prop :=
  ∃ m, i.method name types.length = .ok m ∧ m.Declares name types

theorem encodeCall_of_offers (xs : List WordArg) (h : i.Offers name (xs.map (·.type))) :
    i.encodeCall name (xs.map (·.value)) =
      .ok (Token.calldata (plainSignature name (xs.map (·.type))) (xs.map (·.word))) := by
  obtain ⟨m, hmethod, hm⟩ := h
  rw [List.length_map] at hmethod
  rw [encodeCall, List.length_map, hmethod]
  exact hm.encodeInput_eq

/-- Calldata that is written word by word is read as a call of the first method with its
    selector, if this declares the types. -/
theorem readCall_of_declares (xs : List WordArg) {data : Bytes}
    (hdata : data = Token.calldata (plainSignature name (xs.map (·.type))) (xs.map (·.word)))
    (hsize : data.length < twoTo 64)
    (hfind : i.methods.find? (·.selector == Selector.ofBytes (data.take 4)) = some m)
    (hm : m.Declares name (xs.map (·.type))) :
    i.readCall data = .ok ⟨m, xs.map (·.value)⟩ := by
  have hinput := hm.encodeInput_eq
  rw [← hdata] at hinput
  have hlength : m.inputs.length = (xs.map (·.value)).length := by
    rw [hm.length_eq xs, List.length_map]
  obtain ⟨-, hdecode⟩ := Method.decodeInput_of_encodeInput hm.readable hlength hinput hsize
  have hlong : ¬data.length < 4 := by
    rw [hdata, Token.length_calldata]
    omega
  rw [readCall, bySelector, if_neg hlong]
  simp only [hfind, hdecode]

end Interface

end Abi

/-- Every value stands beside the type of its parameter. -/
theorem map_type_namedValuesFrom (book : AddressBook) {ps : List Abi.Param} {vs : List Abi.Value}
    (h : ps.length = vs.length) (place : ℕ) :
    (namedValuesFrom book place ps vs).map (·.type) = Abi.typeTexts ps := by
  induction ps generalizing vs place with
  | nil =>
    obtain rfl := List.length_eq_zero_iff.1 h.symm
    rfl
  | cons p ps ih =>
    rcases vs with _ | ⟨v, vs⟩
    · cases h
    · rw [namedValuesFrom, List.map_cons, ih (Nat.succ.inj h), Abi.typeTexts]

/-- A call that can be read and wraps no other is not complained of. -/
theorem Analysis.problems_ofInfo_of_readCall (book : AddressBook) (interfaces : InterfaceSource)
    {tx : ChainTransaction} (htx : tx.to_.isSome = true) (receipt : Receipt) {i : Abi.Interface}
    {c : ReadCall} (hcall : i.readCall tx.input = .ok c) (hwrapped : c.wrapped? = none) :
    (ofInfo book interfaces (.mined tx receipt) (some i) true).problems =
      "; ".intercalate (receipt.logs.flatMap fun log => (readLog book i log).problems) := by
  obtain ⟨to_, hto⟩ := Option.isSome_iff_exists.1 htx
  have hproblems : problemsOf book interfaces (.mined tx receipt) (some i) true =
      receipt.logs.flatMap fun log => (readLog book i log).problems := by
    simp [problemsOf, hto, problemsOfDetails, hcall, problemsOfCall, Except.toOption, hwrapped,
      problemsOfWrapped]
  rw [problems_ofInfo, foldl_joinProblem_empty fun p => ne_empty_of_mem_problemsOf, hproblems]

/-! ## Balances, allowances and transfers -/

theorem Token.transfer_eq (to_ : Address) (amount : Word) : Token.transfer to_ amount =
    Token.calldata (Abi.plainSignature "transfer" ["address", "uint256"])
      [to_.toWord, amount] := by
  rw [Token.transfer, show Abi.plainSignature "transfer" ["address", "uint256"] =
    "transfer(address,uint256)" by decide]

/-- **The token methods are encoded as any declared method is, and read back.** The calldata of
    balances, allowances and transfers is byte for byte that of an interface where these names
    stand for the standard methods. If the first method with the selector of a transfer is the
    standard one, then calldata of a transfer is read as just this transfer, and an analysis of a
    mined call with it tells the method, the recipient and the amount; it complains of nothing but
    logs. -/
theorem Token.calls_agree (i : Abi.Interface) :
    (i.Offers "balanceOf" ["address"] → ∀ owner,
      i.encodeCall "balanceOf" [.address owner] = .ok (Token.balanceOf owner)) ∧
    (i.Offers "allowance" ["address", "address"] → ∀ owner spender,
      i.encodeCall "allowance" [.address owner, .address spender] =
        .ok (Token.allowance owner spender)) ∧
    (i.Offers "transfer" ["address", "uint256"] → ∀ to_ amount,
      i.encodeCall "transfer" [.address to_, .uint amount 256] = .ok (Token.transfer to_ amount)) ∧
    ∀ to_ amount m, i.methods.find?
        (·.selector == Selector.ofBytes ((Token.transfer to_ amount).take 4)) = some m →
      m.Declares "transfer" ["address", "uint256"] →
      i.readCall (Token.transfer to_ amount) = .ok ⟨m, [.address to_, .uint amount 256]⟩ ∧
      ∀ (book : AddressBook) (interfaces : InterfaceSource) (tx : ChainTransaction)
        (receipt : Receipt), tx.to_.isSome = true → tx.input = Token.transfer to_ amount →
        let a := Analysis.ofInfo book interfaces (.mined tx receipt) (some i) true
        a.method = some "transfer" ∧ a.params = namedValues book m.inputs
            [.address to_, .uint amount 256] ∧
          a.params.map (·.type) = ["address", "uint256"] ∧
          a.params.map (·.value) = [to_.checksummed ++ " - (" ++ book.nameOf to_ ++ ")",
            toString amount.toNat ++ " (" ++ Hex.number amount.toNat ++ ")"] ∧
          a.problems = "; ".intercalate
            (receipt.logs.flatMap fun log => (readLog book i log).problems) := by
  refine ⟨fun h owner => ?_, fun h owner spender => ?_, fun h to_ amount => ?_,
    fun to_ amount m hfind hm => ?_⟩
  · exact Abi.Interface.encodeCall_of_offers [.address owner] h
  · exact Abi.Interface.encodeCall_of_offers [.address owner, .address spender] h
  · exact Abi.Interface.encodeCall_of_offers [.address to_, .amount amount] h
  have hsize : (Token.transfer to_ amount).length < twoTo 64 := by
    rw [Token.transfer, Token.length_calldata, List.length_cons, List.length_cons,
      List.length_nil]
    decide
  have hcall : i.readCall (Token.transfer to_ amount) =
      .ok ⟨m, [.address to_, .uint amount 256]⟩ :=
    Abi.Interface.readCall_of_declares [.address to_, .amount amount]
      (Token.transfer_eq to_ amount) hsize hfind hm
  refine ⟨hcall, fun book interfaces tx receipt hto hinput => ?_⟩
  rw [← hinput] at hcall
  obtain ⟨hmethod, hparams⟩ := Analysis.ofInfo_of_readCall book interfaces hto receipt hcall
  have hlength : m.inputs.length = 2 := hm.length_eq [.address to_, .amount amount]
  have hwrapped : ReadCall.wrapped? ⟨m, [.address to_, .uint amount 256]⟩ = none := by
    rw [ReadCall.wrapped?, if_neg]
    rintro ⟨hname, -⟩
    exact absurd (hm.name.symm.trans hname) (by decide)
  refine ⟨hm.name ▸ hmethod, hparams, ?_, ?_,
    Analysis.problems_ofInfo_of_readCall book interfaces hto receipt hcall hwrapped⟩
  · rw [hparams, ReadCall.params, namedValues, map_type_namedValuesFrom book hlength,
      Abi.Method.Declares.typeTexts_eq hm.plain, hm.types]
  · rw [hparams, ReadCall.params, namedValues, map_value_namedValuesFrom book hlength]
    rfl

/-- An interface of the three methods, and a mined transfer of a million by one where another
    method stands behind it. -/
theorem Token.calls_agree_of_million :
    let transfer : Abi.Method :=
      ⟨"transfer", [⟨"to", "address", []⟩, ⟨"amount", "uint256", []⟩], [⟨"", "bool", []⟩]⟩
    let i : Abi.Interface := ⟨[
      ⟨"allowance", [⟨"owner", "address", []⟩, ⟨"spender", "address", []⟩], []⟩,
      ⟨"balanceOf", [⟨"owner", "address", []⟩], []⟩, transfer], []⟩
    let j : Abi.Interface := ⟨[transfer, ⟨"withdraw", [⟨"", "uint256", []⟩], []⟩], []⟩
    let tx : ChainTransaction :=
      ⟨.zero, .zero, some .zero, 7, 0, 21000, 0, Token.transfer .zero 1000000, some 1⟩
    i.encodeCall "balanceOf" [.address .zero] = .ok (Token.balanceOf .zero) ∧
      i.encodeCall "allowance" [.address .zero, .address .zero] =
        .ok (Token.allowance .zero .zero) ∧
      i.encodeCall "transfer" [.address .zero, .uint 1000000 256] =
        .ok (Token.transfer .zero 1000000) ∧
      ∃ a, a = Analysis.ofInfo .empty (fun a => .error (.unregistered a))
          (.mined tx ⟨.success, 21000, [], some 1⟩) (some j) true ∧
        a.method = some "transfer" ∧
        a.params.map (·.value) =
          [Address.zero.checksummed ++ " - (unknown)", "1000000 (0xf4240)"] ∧
        a.problems = "" := by
  intro transfer i j tx
  have hdeclares : transfer.Declares "transfer" ["address", "uint256"] := ⟨rfl, rfl, by decide⟩
  have hfind : j.methods.find?
      (·.selector == Selector.ofBytes ((Token.transfer .zero 1000000).take 4)) = some transfer :=
    List.find?_cons_of_pos (by rw [Token.transfer_eq, ← hdeclares.selector_eq, beq_self_eq_true])
  obtain ⟨hbalance, hallowance, htransfer, -⟩ := Token.calls_agree i
  obtain ⟨-, htold⟩ := (Token.calls_agree j).2.2.2 .zero 1000000 transfer hfind hdeclares
  obtain ⟨hmethod, -, -, hvalues, hproblems⟩ := htold .empty (fun a => .error (.unregistered a)) tx
    ⟨.success, 21000, [], some 1⟩ rfl rfl
  have hamount : toString (1000000 : Word).toNat ++ " (" ++ Hex.number (1000000 : Word).toNat ++
      ")" = "1000000 (0xf4240)" := by decide +kernel
  have hname : Address.zero.checksummed ++ " - (" ++ AddressBook.empty.nameOf .zero ++ ")" =
      Address.zero.checksummed ++ " - (unknown)" := by
    have hunknown : " - (" ++ (AddressBook.empty.nameOf .zero ++ ")") = " - (unknown)" := by
      decide +kernel
    rw [String.append_assoc, String.append_assoc, hunknown]
  exact ⟨hbalance ⟨_, by cbv, rfl, rfl, by decide⟩ .zero,
    hallowance ⟨_, by cbv, rfl, rfl, by decide⟩ .zero .zero,
    htransfer ⟨transfer, by cbv, hdeclares⟩ .zero 1000000, _, rfl, hmethod,
    by rw [hvalues, hamount, hname], hproblems⟩

end NodeFleet

/-
  Calling methods that are only known by an interface.

  * `Interface.method`: the first overload of a name that takes a number of arguments.
  * `Interface.bySelector`: the method whose selector calldata begins with.
  * `Interface.encodeCall`, `Method.decodeInput`, `Method.decodeOutput`: calldata and return
    data against the declared types.
-/
import NodeFleet.Abi.Decode
import NodeFleet.Abi.Encode
import NodeFleet.Abi.Interface

namespace NodeFleet.Abi

/-- Why a call has no calldata. -/
inductive CallError where
  | noMethod (name : String)
  | noOverload (name : String) (arity : Nat)
  | arguments (signature : String) (e : EncodeError)

/-- Why calldata is no call of a method. -/
inductive SelectorError where
  | tooShort (size : Nat)
  | unknown (selector : Selector)
  deriving DecidableEq

namespace Interface

def method (i : Interface) (name : String) (arity : Nat) : Except CallError Method :=
  match i.overloads name with
  | [] => .error (.noMethod name)
  | m :: ms =>
    match (m :: ms).find? (·.inputs.length == arity) with
    | some m => .ok m
    | none => .error (.noOverload name arity)

def bySelector (i : Interface) (data : Bytes) : Except SelectorError Method :=
  if data.length < 4 then .error (.tooShort data.length)
  else
    let selector := Selector.ofBytes (data.take 4)
    match i.methods.find? (·.selector == selector) with
    | some m => .ok m
    | none => .error (.unknown selector)

end Interface

namespace Method

/-- The selector and the arguments behind it. -/
def encodeInput (m : Method) (args : List Value) : Except CallError Bytes :=
  match encodeChecked (m.inputs.map (·.resolve)) args with
  | .error e => .error (.arguments m.signature e)
  | .ok data => .ok (m.selector.toBytes ++ data)

/-- The arguments in calldata, without its selector. -/
def decodeInput (m : Method) (data : Bytes) : Except DecodeError (List Value) :=
  decode (m.inputs.map (·.resolve)) data

def decodeOutput (m : Method) (data : Bytes) : Except DecodeError (List Value) :=
  decode (m.outputs.map (·.resolve)) data

end Method

/-- The calldata of a method with arguments. -/
def Interface.encodeCall (i : Interface) (name : String) (args : List Value) :
    Except CallError Bytes :=
  match i.method name args.length with
  | .error e => .error e
  | .ok m => m.encodeInput args

end NodeFleet.Abi

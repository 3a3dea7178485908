/-
  Records in documents.

  * `Record.ofJson?`: the fields of a record, written as an object or as a list of values in
    order. An object may hold other keys, but no field twice.
  * `Record.required?`, `Record.optional?`, `Record.defaulted?`: the three ways in which a
    field is read; they differ in what a missing field means.
  * `readNat?`, `readString?`, `readList?`, …: values of single fields.
-/
import NodeFleet.Json

namespace NodeFleet.Json

/-- The fields of a record that a document holds. -/
structure Record where
  entries : List (String × Json)
  /-- Whether the document lists the values without their names. -/
  listed : Bool

namespace Record

/-- The entries with one of the given names, unless one of these occurs twice. -/
def known? (fields : List String) : List (String × Json) → Option (List (String × Json))
  | [] => some []
  | (k, v) :: rest =>
    match known? fields rest with
    | none => none
    | some es =>
      if !fields.contains k then some es
      else if (es.lookup k).isSome then none
      else some ((k, v) :: es)

/-- The fields of a record with the given names. -/
def ofJson? (fields : List String) : Json → Option Record
  | .obj entries => (known? fields entries).map (⟨·, false⟩)
  | .arr items =>
    if items.length ≤ fields.length then some ⟨fields.zip items, true⟩ else none
  | _ => none

/-- A field that must be there. -/
def required? {α : Type} (r : Record) (name : String) (read : Json → Option α) : Option α :=
  (r.entries.lookup name).bind read

/-- A field that may be null, and that an object may leave out. -/
def optional? {α : Type} (r : Record) (name : String) (read : Json → Option α) :
    Option (Option α) :=
  match r.entries.lookup name with
  | none => if r.listed then none else some none
  | some .null => some none
  | some j => (read j).map some

/-- A field with a value of its own for when it is left out. -/
def defaulted? {α : Type} (r : Record) (name : String) (default : α) (read : Json → Option α) :
    Option α :=
  match r.entries.lookup name with
  | none => some default
  | some j => read j

end Record

def readString? : Json → Option String
  | .str s => some s
  | _ => none

def readBool? : Json → Option Bool
  | .bool b => some b
  | _ => none

/-- A number of plain digits below a limit; a negative zero is none. -/
def readNat? (limit : Nat) : Json → Option Nat
  | .num n => n.nat?.bind fun v => if v < limit then some v else none
  | _ => none

/-- A value or null. -/
def readNullable? {α : Type} (read : Json → Option α) : Json → Option (Option α)
  | .null => some none
  | j => (read j).map some

def readList? {α : Type} (read : Json → Option α) : Json → Option (List α)
  | .arr items => items.mapM read
  | _ => none

end NodeFleet.Json

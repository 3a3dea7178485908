/-
  Names for addresses.

  * `AddressBook.register`, `AddressBook.nameOf`: one name an address; an address without one is
    `unknown`.
  * `AddressBook.load`: a book from written addresses and names, entered in turn.
  * `AddressBook.parse`: a book from a document.
-/
import NodeFleet.Error
import NodeFleet.Json.Reader
import NodeFleet.Json.Record

namespace NodeFleet

structure AddressBook where
  entries : List (Address × String)

namespace AddressBook

def empty : AddressBook := ⟨[]⟩

def size (b : AddressBook) : Nat := b.entries.length

def isEmpty (b : AddressBook) : Bool := b.entries.isEmpty

/-- Names an address, or renames it. -/
def register (b : AddressBook) (a : Address) (name : String) : AddressBook :=
  ⟨(a, name) :: b.entries.filter (·.1 ≠ a)⟩

def nameOf (b : AddressBook) (a : Address) : String := (b.entries.lookup a).getD "unknown"

theorem nameOf_register (b : AddressBook) (a : Address) (name : String) :
    (b.register a name).nameOf a = name := by
  simp [register, nameOf]

/-! ## Reading -/

/-- Enters written addresses with their names, in turn. -/
def loadInto (b : AddressBook) : List (String × String) → Except ParseError AddressBook
  | [] => .ok b
  | (key, name) :: rest =>
    match Address.parse key with
    | .error e => .error (.addressBookEntry key e)
    | .ok a => loadInto (b.register a name) rest

def load (entries : List (String × String)) : Except ParseError AddressBook :=
  loadInto empty entries

/-- The entries of an object of texts; of one key the last value counts. -/
def readEntries? (j : Json) : Option (List (String × String)) :=
  match j with
  | .obj entries => do
    let all ← entries.mapM fun (k, v) => (Json.readString? v).map (k, ·)
    let keys := (all.map (·.1)).eraseDups
    return keys.filterMap fun k => (all.reverse.lookup k).map (k, ·)
  | _ => none

def parse (s : String) : Except ParseError AddressBook :=
  match (Json.parse? s).bind readEntries? with
  | none => .error .addressBook
  | some entries => load entries

end AddressBook

end NodeFleet

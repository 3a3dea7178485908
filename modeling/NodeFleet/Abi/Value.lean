/-
  Values that contracts take and give.

  * `Abi.Value`: a value; integers keep a whole word beside their declared width, byte
    strings of fixed size stand at the left of a word.
  * `Value.typeName?`: the name of a value's type; an empty array has none.
  * `Ty.admits`: whether a value is of a type; widths count, ranges do not. The arrays of a
    type are those of its values (`Ty.admits_array_iff`, `Ty.admits_fixedArray_iff`).
-/
import NodeFleet.Abi.Type
import NodeFleet.Bytes

namespace NodeFleet.Abi

/-- A contract value. -/
inductive Value where
  | bool (b : Bool)
  | uint (w : Word) (bits : Nat)
  | int (w : Word) (bits : Nat)
  | address (a : Address)
  | fixedBytes (w : Word) (size : Nat)
  | function (f : BitVec 192)
  | bytes (bs : Bytes)
  | string (s : String)
  | array (items : List Value)
  | fixedArray (items : List Value)
  | tuple (items : List Value)
  deriving Inhabited

mutual
def Value.typeName? : Value → Option String
  | .bool _ => some "bool"
  | .uint _ n => some ("uint" ++ toString n)
  | .int _ n => some ("int" ++ toString n)
  | .address _ => some "address"
  | .fixedBytes _ n => some ("bytes" ++ toString n)
  | .function _ => some "function"
  | .bytes _ => some "bytes"
  | .string _ => some "string"
  | .array [] => none
  | .array (v :: _) => v.typeName?.map (· ++ "[]")
  | .fixedArray [] => none
  | .fixedArray (v :: vs) =>
    v.typeName?.map fun name => name ++ "[" ++ toString (vs.length + 1) ++ "]"
  | .tuple vs => (typeNames? vs).map bracketed
def typeNames? : List Value → Option (List String)
  | [] => some []
  | v :: vs =>
    match v.typeName?, typeNames? vs with
    | some name, some names => some (name :: names)
    | _, _ => none
end

mutual
/-- Whether a value is of a type. -/
def Ty.admits : Ty → Value → Bool
  | .bool, .bool _ => true
  | .uint n, .uint _ m => m == n
  | .int n, .int _ m => m == n
  | .address, .address _ => true
  | .fixedBytes n, .fixedBytes _ m => m == n
  | .function, .function _ => true
  | .bytes, .bytes _ => true
  | .string, .string _ => true
  | .array t, .array vs => vs.all t.admits
  | .fixedArray t n, .fixedArray vs => vs.length == n && vs.all t.admits
  | .tuple ts, .tuple vs => admitsEach ts vs
  | _, _ => false
def admitsEach : List Ty → List Value → Bool
  | [], [] => true
  | t :: ts, v :: vs => t.admits v && admitsEach ts vs
  | _, _ => false
end

theorem Ty.admits_array_iff {t : Ty} {v : Value} :
    (Ty.array t).admits v = true ↔ ∃ vs, v = .array vs ∧ ∀ w ∈ vs, t.admits w = true := by
  cases v <;> simp [Ty.admits]

theorem Ty.admits_fixedArray_iff {t : Ty} {n : Nat} {v : Value} :
    (Ty.fixedArray t n).admits v = true ↔
      ∃ vs, v = .fixedArray vs ∧ vs.length = n ∧ ∀ w ∈ vs, t.admits w = true := by
  cases v <;> simp [Ty.admits]

end NodeFleet.Abi

/-
  Contract values as calldata.

  * `Part`: what one value adds to the list it stands in: its bytes in place, or a pointer
    and its bytes behind the list.
  * `assemble`: the bytes of a list of parts; pointers count from the start of the list.
  * `Value.put`, `encode`: the bytes of a value and of a list of values.
  * `encodeChecked`: the same, for values that are of the declared types.
-/
import NodeFleet.Abi.Value
import NodeFleet.Text.Utf8

namespace NodeFleet.Abi

/-! ## Layout -/

/-- What one value adds to the list it stands in. -/
inductive Part where
  /-- Bytes that stand in the list itself. -/
  | inPlace (bs : Bytes)
  /-- Bytes behind the list, with a pointer in it. -/
  | behind (bs : Bytes)

def Part.headSize : Part → Nat
  | .inPlace bs => bs.length
  | .behind _ => 32

def headsSize : List Part → Nat
  | [] => 0
  | p :: ps => p.headSize + headsSize ps

/-- The list itself; `offset` is where the next bytes behind it begin. -/
def heads (offset : Nat) : List Part → Bytes
  | [] => []
  | .inPlace bs :: ps => bs ++ heads offset ps
  | .behind bs :: ps => beBytes 32 offset ++ heads (offset + bs.length) ps

/-- What stands behind the list. -/
def tails : List Part → Bytes
  | [] => []
  | .inPlace _ :: ps => tails ps
  | .behind bs :: ps => bs ++ tails ps

def assemble (ps : List Part) : Bytes := heads (headsSize ps) ps ++ tails ps

@[simp] theorem length_heads (offset : Nat) (ps : List Part) :
    (heads offset ps).length = headsSize ps := by
  induction ps generalizing offset with
  | nil => rfl
  | cons p ps ih => cases p <;> simp [heads, headsSize, Part.headSize, ih]

/-! ## Values -/

/-- Filled up with zeros to a whole number of words. -/
def padRight (bs : Bytes) : Bytes := bs ++ List.replicate ((32 - bs.length % 32) % 32) 0

/-- A byte string with its length in front. -/
def putBytes (bs : Bytes) : Bytes := beBytes 32 bs.length ++ padRight bs

mutual
/-- Whether the bytes of a value stand behind the list it is in. -/
def Value.isDynamic : Value → Bool
  | .bytes _ | .string _ | .array _ => true
  | .fixedArray vs | .tuple vs => anyDynamic vs
  | _ => false
def anyDynamic : List Value → Bool
  | [] => false
  | v :: vs => v.isDynamic || anyDynamic vs
end

mutual
/-- The bytes of a value. -/
def Value.put : Value → Bytes
  | .bool b => beBytes 32 b.toNat
  | .uint w _ | .int w _ | .fixedBytes w _ => wordBytes w
  | .address a => wordBytes a.toWord
  | .function f => beBytes 24 f.toNat ++ List.replicate 8 0
  | .bytes bs => putBytes bs
  | .string s => putBytes (Utf8.encode s)
  | .array vs => beBytes 32 vs.length ++ assemble (parts vs)
  | .fixedArray vs | .tuple vs => assemble (parts vs)
def parts : List Value → List Part
  | [] => []
  | v :: vs => (if v.isDynamic then .behind v.put else .inPlace v.put) :: parts vs
end

/-- The bytes of a list of values. -/
def encode (vs : List Value) : Bytes := assemble (parts vs)

/-! ## Declared types -/

/-- Why values are not encoded. -/
inductive EncodeError where
  | type (e : TypeError)
  | mismatch (expected : Ty) (given : Value)

def EncodeError.message : EncodeError → String
  | .type e => e.message
  | .mismatch expected given =>
    "type mismatch: expected type \"" ++ expected.name ++ "\", got value with type \""
      ++ given.typeName?.getD "<none>" ++ "\""

/-- Checks values against types in turn; a type that means nothing counts where it stands. -/
def checkEach : List (Except TypeError Ty) → List Value → Except EncodeError Unit
  | .error e :: _, _ :: _ => .error (.type e)
  | .ok t :: ts, v :: vs => if t.admits v then checkEach ts vs else .error (.mismatch t v)
  | _, _ => .ok ()

def encodeChecked (ts : List (Except TypeError Ty)) (vs : List Value) :
    Except EncodeError Bytes :=
  (checkEach ts vs).map fun _ => encode vs

end NodeFleet.Abi

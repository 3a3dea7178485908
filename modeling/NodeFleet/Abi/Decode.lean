/-
  Contract values from calldata.

  * `DecodeError`: bytes run out, a pointer or length is beyond 64 bits, or the nesting is
    too deep.
  * `Ty.decode`: reads one value of a type at a place in a frame, the byte string that
    pointers count from. Unused high bits are not looked at, and texts are read as they are.
  * `decodeBlock`: tuples and arrays of fixed size are read as blocks of values
    (`decode_tuple_eq`, `decode_fixedArray_eq`).
  * `decode`: reads values one after another.
-/
import NodeFleet.Abi.Value
import NodeFleet.Bytes.Hex
import NodeFleet.Text.Utf8

namespace NodeFleet.Abi

/-- Why bytes are no values of the declared types. -/
inductive DecodeError where
  | type (e : TypeError)
  | overrun
  | badOffset (w : Word)
  | tooDeep
  deriving DecidableEq

def DecodeError.message : DecodeError → String
  | .type e => e.message
  | .overrun => "ABI decoding failed: buffer overrun while deserializing"
  | .badOffset w =>
    "type check failed for \"offset (usize)\" with data: " ++ Hex.text (wordBytes w)
  | .tooDeep => "ABI decoding failed: recursion limit of 16 exceeded during decoding"

/-- How many frames may lie in one another. -/
def maxDepth : Nat := 16

/-! ## Frames -/

/-- Bytes that pointers count from, and how many frames lie around them. -/
structure Frame where
  bytes : Bytes
  depth : Nat

namespace Frame

def word (f : Frame) (at_ : Nat) : Except DecodeError Word :=
  if at_ + 32 ≤ f.bytes.length then .ok (wordOfBytes (f.bytes.drop at_)) else .error .overrun

/-- A pointer or a length. -/
def offset (f : Frame) (at_ : Nat) : Except DecodeError Nat :=
  match f.word at_ with
  | .error e => .error e
  | .ok w => if w.toNat < twoTo 64 then .ok w.toNat else .error (.badOffset w)

/-- The frame that begins at a place of this one. -/
def inner (f : Frame) (at_ : Nat) : Except DecodeError Frame :=
  if f.depth ≥ maxDepth then .error .tooDeep
  else if at_ ≤ f.bytes.length then .ok ⟨f.bytes.drop at_, f.depth + 1⟩
  else .error .overrun

/-- The frame that the pointer at a place leads to. -/
def follow (f : Frame) (at_ : Nat) : Except DecodeError Frame := do
  f.inner (← f.offset at_)

/-- A byte string with its length in front. -/
def sized (f : Frame) : Except DecodeError Bytes := do
  let n ← f.offset 0
  if 32 + n ≤ f.bytes.length then .ok ((f.bytes.drop 32).take n) else .error .overrun

end Frame

/-! ## Types -/

mutual
/-- Whether values of a type stand behind the list they are in. -/
def Ty.isDynamic : Ty → Bool
  | .bytes | .string | .array _ => true
  | .fixedArray t n => n != 0 && t.isDynamic
  | .tuple ts => anyDynamicTy ts
  | _ => false
def anyDynamicTy : List Ty → Bool
  | [] => false
  | t :: ts => t.isDynamic || anyDynamicTy ts
end

theorem anyDynamicTy_eq (ts : List Ty) : anyDynamicTy ts = ts.any Ty.isDynamic := by
  induction ts with
  | nil => rfl
  | cons t ts ih => rw [anyDynamicTy, ih, List.any_cons]

theorem anyDynamicTy_replicate (t : Ty) (n : Nat) :
    anyDynamicTy (List.replicate n t) = (n != 0 && t.isDynamic) := by
  rw [anyDynamicTy_eq, List.any_replicate]
  cases n <;> simp

/-- Reads with the same reader `n` times. -/
def repeatRead (read : Nat → Except DecodeError (Value × Nat)) :
    Nat → Nat → Except DecodeError (List Value × Nat)
  | 0, at_ => .ok ([], at_)
  | n + 1, at_ => do
    let (v, at_) ← read at_
    let (vs, at_) ← repeatRead read n at_
    return (v :: vs, at_)

mutual
/-- The value of a type at a place in a frame, and the place behind it. -/
def Ty.decode : Ty → Frame → Nat → Except DecodeError (Value × Nat)
  | .bool, f, i => do return (.bool ((← f.word i) != 0), i + 32)
  | .uint n, f, i => do return (.uint (← f.word i) n, i + 32)
  | .int n, f, i => do return (.int (← f.word i) n, i + 32)
  | .address, f, i => do return (.address ⟨(← f.word i).setWidth 160⟩, i + 32)
  | .fixedBytes n, f, i => do return (.fixedBytes (← f.word i) n, i + 32)
  | .function, f, i => do return (.function ((← f.word i) >>> 64 |>.setWidth 192), i + 32)
  | .bytes, f, i => do return (.bytes (← (← f.follow i).sized), i + 32)
  | .string, f, i => do return (.string (Utf8.decodeLossy (← (← f.follow i).sized)), i + 32)
  | .array t, f, i => do
    let g ← f.follow i
    let n ← g.offset 0
    if n = 0 then return (.array [], i + 32)
    let items ← g.inner 32
    if items.bytes.length / 32 < n then .error .overrun
    let (vs, _) ← repeatRead (fun j => t.decode items j) n 0
    return (.array vs, i + 32)
  | .fixedArray t n, f, i => do
    if n != 0 && t.isDynamic then
      let g ← f.follow i
      let (vs, _) ← repeatRead (fun j => t.decode g j) n 0
      return (.fixedArray vs, i + 32)
    else
      let g ← f.inner i
      let (vs, j) ← repeatRead (fun j => t.decode g j) n 0
      return (.fixedArray vs, i + j)
  | .tuple ts, f, i => do
    if anyDynamicTy ts then
      let (vs, _) ← decodeEach ts (← f.follow i) 0
      return (.tuple vs, i + 32)
    else
      let (vs, j) ← decodeEach ts (← f.inner i) 0
      return (.tuple vs, i + j)
/-- The values of types that stand one after another. -/
def decodeEach : List Ty → Frame → Nat → Except DecodeError (List Value × Nat)
  | [], _, i => .ok ([], i)
  | t :: ts, f, i => do
    let (v, i) ← t.decode f i
    let (vs, i) ← decodeEach ts f i
    return (v :: vs, i)
end

theorem decodeEach_cons {t : Ty} {ts : List Ty} {v : Value} {vs : List Value} {f : Frame}
    {i j k : Nat} (hv : t.decode f i = .ok (v, j)) (hvs : decodeEach ts f j = .ok (vs, k)) :
    decodeEach (t :: ts) f i = .ok (v :: vs, k) := by
  rw [decodeEach, hv]
  change (decodeEach ts f j).bind (fun p => .ok (v :: p.1, p.2)) = _
  rw [hvs]
  rfl

/-- Reading with one reader is reading values of one type. -/
theorem repeatRead_eq (t : Ty) (f : Frame) (n i : Nat) :
    repeatRead (fun j => t.decode f j) n i = decodeEach (List.replicate n t) f i := by
  induction n generalizing i with
  | zero => rfl
  | succ n ih => simp only [repeatRead, List.replicate_succ, decodeEach, ih]

/-- Reads values that stand together, behind a pointer if one of them has bytes elsewhere. -/
def decodeBlock (ts : List Ty) (f : Frame) (i : Nat) : Except DecodeError (List Value × Nat) :=
  if anyDynamicTy ts then do
    let (vs, _) ← decodeEach ts (← f.follow i) 0
    return (vs, i + 32)
  else do
    let (vs, j) ← decodeEach ts (← f.inner i) 0
    return (vs, i + j)

/-- A tuple is read as a block of its values, and an array of fixed size as one of values of
    one type. -/
theorem decode_tuple_eq (ts : List Ty) (f : Frame) (i : Nat) :
    (Ty.tuple ts).decode f i = (fun p => (.tuple p.1, p.2)) <$> decodeBlock ts f i := by
  rw [Ty.decode, decodeBlock]
  split <;> simp only [map_bind, map_pure]

theorem decode_fixedArray_eq (t : Ty) (n : Nat) (f : Frame) (i : Nat) :
    (Ty.fixedArray t n).decode f i =
      (fun p => (.fixedArray p.1, p.2)) <$> decodeBlock (List.replicate n t) f i := by
  simp only [Ty.decode, decodeBlock, anyDynamicTy_replicate, repeatRead_eq]
  split <;> simp only [map_bind, map_pure]

/-- The values of declared types in a byte string, read in turn. -/
def decodeFrom (f : Frame) : List (Except TypeError Ty) → Nat → Except DecodeError (List Value)
  | [], _ => .ok []
  | .error e :: _, _ => .error (.type e)
  | .ok t :: ts, i =>
    match t.decode f i with
    | .error e => .error e
    | .ok (v, i) => (decodeFrom f ts i).map (v :: ·)

def decode (ts : List (Except TypeError Ty)) (bs : Bytes) : Except DecodeError (List Value) :=
  decodeFrom ⟨bs, 0⟩ ts 0

end NodeFleet.Abi

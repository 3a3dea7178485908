/-
  Types of contract values.

  * `Abi.Ty`: a resolved type, and `Ty.name`, its name.
  * `Abi.Spec`: a type as a text writes it: a name or a bracketed list, then array sizes;
    `Spec.parse?` reads one.
  * `Spec.resolve`: the type that a text means; a name that is no type is told apart from a
    size that no type has.
-/
import NodeFleet.Number.Binary64

namespace NodeFleet.Abi

/-- A type of contract values. -/
inductive Ty where
  | bool
  | uint (bits : Nat)
  | int (bits : Nat)
  | address
  | fixedBytes (size : Nat)
  | function
  | bytes
  | string
  | array (item : Ty)
  | fixedArray (item : Ty) (size : Nat)
  | tuple (items : List Ty)
  deriving Inhabited

/-- Why a text means no type. -/
inductive TypeError where
  | unknownName (name : String)
  | badSize (name : String)
  deriving DecidableEq

def TypeError.message : TypeError → String
  | .unknownName name => "invalid type string: " ++ name
  | .badSize name => "invalid size for type: " ++ name

/-- A list of names in brackets; a single name keeps a comma. -/
def bracketed : List String → String
  | [] => "()"
  | [x] => "(" ++ x ++ ",)"
  | x :: xs => "(" ++ String.intercalate "," (x :: xs) ++ ")"

mutual
def Ty.name : Ty → String
  | .bool => "bool"
  | .uint n => "uint" ++ toString n
  | .int n => "int" ++ toString n
  | .address => "address"
  | .fixedBytes n => "bytes" ++ toString n
  | .function => "function"
  | .bytes => "bytes"
  | .string => "string"
  | .array t => t.name ++ "[]"
  | .fixedArray t n => t.name ++ "[" ++ toString n ++ "]"
  | .tuple ts => bracketed (namesOf ts)
def namesOf : List Ty → List String
  | [] => []
  | t :: ts => t.name :: namesOf ts
end

/-! ## Written types -/

/-- A written type: what stands in front of the array sizes, and these, innermost first. -/
inductive Spec where
  | named (name : String) (sizes : List (Option Nat))
  | tuple (items : List Spec) (sizes : List (Option Nat))

def isNameStart (c : Char) : Bool :=
  ('a' ≤ c && c ≤ 'z') || ('A' ≤ c && c ≤ 'Z') || c = '_' || c = '$'

def isNameChar (c : Char) : Bool := isNameStart c || ('0' ≤ c && c ≤ '9')

/-- Whether a text can name a method, a parameter or a type. -/
def isName (s : String) : Bool :=
  match s.toList with
  | [] => false
  | c :: cs => isNameStart c && cs.all isNameChar

private def isDecimalDigit (c : Char) : Bool := '0' ≤ c && c ≤ '9'

/-- A number of at most 64 bits in plain digits. -/
def count? (ds : List Char) : Option Nat :=
  let n := Binary64.digitsValue ds
  if !ds.isEmpty && ds.all isDecimalDigit && n < twoTo 64 then some n else none

/-- Reads array sizes as long as a bracket follows. A written size is not zero. -/
def readSizes : Nat → List Char → Option (List (Option Nat) × List Char)
  | 0, _ => none
  | fuel + 1, cs =>
    match cs with
    | '[' :: rest =>
      let ds := rest.takeWhile isDecimalDigit
      match rest.dropWhile isDecimalDigit with
      | ']' :: rest =>
        let size? : Option (Option Nat) :=
          if ds.isEmpty then some none
          else
            match count? ds with
            | some n => if n = 0 then none else some (some n)
            | none => none
        match size?, readSizes fuel rest with
        | some size, some (sizes, rest) => some (size :: sizes, rest)
        | _, _ => none
      | _ => none
    | _ => some ([], cs)

/-- Reads a name. A dotted pair names a member of a library, whose values have eight bits. -/
def readName (cs : List Char) : Option (String × List Char) :=
  match cs with
  | [] => none
  | c :: _ =>
    if !isNameStart c then none
    else
      match cs.dropWhile isNameChar with
      | '.' :: d :: rest =>
        if isNameStart d then some ("uint8", rest.dropWhile isNameChar) else none
      | ['.'] => none
      | rest => some (String.ofList (cs.takeWhile isNameChar), rest)

/-- Drops the word in front of a bracketed list, which means nothing. -/
private def dropTupleWord : List Char → List Char
  | 't' :: 'u' :: 'p' :: 'l' :: 'e' :: '(' :: rest => '(' :: rest
  | cs => cs

mutual
/-- Reads one written type; `fuel` bounds the nesting. -/
def readSpec : Nat → List Char → Option (Spec × List Char)
  | 0, _ => none
  | fuel + 1, cs =>
    match dropTupleWord cs with
    | '(' :: ')' :: rest =>
      (readSizes (rest.length + 1) rest).map fun (sizes, rest) => (.tuple [] sizes, rest)
    | '(' :: rest =>
      match readSpecs fuel rest with
      | none => none
      | some (items, rest) =>
        (readSizes (rest.length + 1) rest).map fun (sizes, rest) => (.tuple items sizes, rest)
    | cs =>
      match readName cs with
      | none => none
      | some (name, rest) =>
        (readSizes (rest.length + 1) rest).map fun (sizes, rest) => (.named name sizes, rest)
/-- Reads the types of a bracketed list, with its closing bracket. -/
def readSpecs : Nat → List Char → Option (List Spec × List Char)
  | 0, _ => none
  | fuel + 1, cs =>
    match readSpec fuel cs with
    | none => none
    | some (item, ')' :: rest) => some ([item], rest)
    | some (item, ',' :: rest) =>
      (readSpecs fuel rest).map fun (items, rest) => (item :: items, rest)
    | some _ => none
end

/-- The written type that a whole text is. -/
def Spec.parse? (s : String) : Option Spec :=
  let cs := s.toList
  match readSpec (2 * cs.length + 2) cs with
  | some (spec, []) => some spec
  | _ => none

/-! ## Resolving -/

/-- The text after a given beginning. -/
private def after? (start name : String) : Option (List Char) :=
  let cs := name.toList
  if start.toList.isPrefixOf cs then some (cs.drop start.toList.length) else none

private def integer? (start name : String) : Option Nat := (after? start name).bind count?

/-- The type with a given name. -/
def Ty.ofName (name : String) : Except TypeError Ty :=
  match name with
  | "bool" => .ok .bool
  | "address" => .ok .address
  | "function" => .ok .function
  | "bytes" => .ok .bytes
  | "string" => .ok .string
  | "uint" => .ok (.uint 256)
  | "int" => .ok (.int 256)
  | _ =>
    match integer? "bytes" name, integer? "uint" name, integer? "int" name with
    | some n, _, _ => if 0 < n ∧ n ≤ 32 then .ok (.fixedBytes n) else .error (.badSize name)
    | none, some n, _ =>
      if 0 < n ∧ n ≤ 256 ∧ n % 8 = 0 then .ok (.uint n) else .error (.badSize name)
    | none, none, some n =>
      if 0 < n ∧ n ≤ 256 ∧ n % 8 = 0 then .ok (.int n) else .error (.badSize name)
    | none, none, none => .error (.unknownName name)

/-- A type in arrays of the given sizes, innermost first. -/
def Ty.inArrays (t : Ty) (sizes : List (Option Nat)) : Ty :=
  sizes.foldl (fun t size =>
    match size with
    | some n => .fixedArray t n
    | none => .array t) t

mutual
def Spec.resolve : Spec → Except TypeError Ty
  | .named name sizes => (Ty.ofName name).map (·.inArrays sizes)
  | .tuple items sizes => (resolveSpecs items).map fun ts => (Ty.tuple ts).inArrays sizes
def resolveSpecs : List Spec → Except TypeError (List Ty)
  | [] => .ok []
  | s :: rest =>
    match s.resolve with
    | .error e => .error e
    | .ok t => (resolveSpecs rest).map (t :: ·)
end

def Spec.sizes : Spec → List (Option Nat)
  | .named _ sizes => sizes
  | .tuple _ sizes => sizes

end NodeFleet.Abi

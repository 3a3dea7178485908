/-
  Contract values spelt out in full, as messages about an unexpected value show them.

  * `Value.spelled`: the kind of a value with its contents in brackets.
-/
import NodeFleet.Abi.Value
import NodeFleet.Bytes.Hex
import NodeFleet.Text.Quoted

namespace NodeFleet.Abi

private def call (kind : String) (args : List String) : String :=
  kind ++ "(" ++ String.intercalate ", " args ++ ")"

private def list (items : List String) : String := "[" ++ String.intercalate ", " items ++ "]"

mutual
def Value.spelled : Value → String
  | .bool b => call "Bool" [toString b]
  | .uint w n => call "Uint" [toString w.toNat, toString n]
  | .int w n => call "Int" [toString w.toInt, toString n]
  | .address a => call "Address" [Hex.prefixed a.toBytes]
  | .fixedBytes w n => call "FixedBytes" [Hex.prefixed (wordBytes w), toString n]
  | .function f => call "Function" [Hex.prefixed (beBytes 24 f.toNat)]
  | .bytes bs => call "Bytes" [list (bs.map fun b => toString b.toNat)]
  | .string s => call "String" [Text.quoted s]
  | .array vs => call "Array" [list (spelledEach vs)]
  | .fixedArray vs => call "FixedArray" [list (spelledEach vs)]
  | .tuple vs => call "Tuple" [list (spelledEach vs)]
def spelledEach : List Value → List String
  | [] => []
  | v :: vs => v.spelled :: spelledEach vs
end

/-- A value that may be missing. -/
def spelledOption : Option Value → String
  | none => "None"
  | some v => call "Some" [v.spelled]

end NodeFleet.Abi

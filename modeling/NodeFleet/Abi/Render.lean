/-
  Contract values for people to read.

  * `Value.render`: integers in both bases, addresses with their names, bytes in hexadecimal.
    A list says of which kind it is.
-/
import NodeFleet.Abi.Value
import NodeFleet.AddressBook

namespace NodeFleet.Abi

mutual
def Value.render (book : AddressBook) : Value → String
  | .bool b => if b then "true" else "false"
  | .int w _ => toString w.toInt ++ " (" ++ Hex.number w.toNat ++ ")"
  | .uint w _ => toString w.toNat ++ " (" ++ Hex.number w.toNat ++ ")"
  | .address a => a.checksummed ++ " - (" ++ book.nameOf a ++ ")"
  | .fixedBytes w n => Hex.prefixed ((wordBytes w).take n)
  | .function f => Hex.prefixed (beBytes 24 f.toNat)
  | .bytes bs => Hex.prefixed bs
  | .string s => s
  | .array vs => "[" ++ renderList book vs ++ "] (slice)"
  | .fixedArray vs => "[" ++ renderList book vs ++ "] (array)"
  | .tuple vs => "(" ++ renderList book vs ++ ")"
def renderList (book : AddressBook) : List Value → String
  | [] => ""
  | [v] => v.render book
  | v :: w :: vs => v.render book ++ ", " ++ renderList book (w :: vs)
end

end NodeFleet.Abi

/-
  JSON documents.

  * `Json`: a document; the entries of an object keep their order and their repetitions, a
    number keeps its digits.
  * `Json.compact`, `Json.pretty`: the text of a document without and with indentation.
  * `Json.field?`: the value of an object's key, the last one where the key is repeated.
-/
import NodeFleet.Number.Shortest

namespace NodeFleet

/-- A number as it is spelt. -/
structure Json.Numeral where
  negative : Bool
  whole : List Char
  fraction : Option (List Char)
  exponent : Option Int
  deriving DecidableEq

/-- A JSON document. -/
inductive Json where
  | null
  | bool (b : Bool)
  | num (n : Json.Numeral)
  | str (s : String)
  /-- A string literal with half of a surrogate pair, which denotes no text. -/
  | brokenStr
  | arr (items : List Json)
  | obj (entries : List (String × Json))
  deriving Inhabited, BEq

namespace Json

def ofNat (n : Nat) : Json := .num ⟨false, Nat.toDigits 10 n, none, none⟩

def ofInt : Int → Json
  | .ofNat n => ofNat n
  | .negSucc n => .num ⟨true, Nat.toDigits 10 (n + 1), none, none⟩

/-- The value that a reader sees under a key: the last of its entries. -/
def field? (j : Json) (key : String) : Option Json :=
  match j with
  | .obj entries => (entries.reverse.find? (·.1 == key)).map (·.2)
  | _ => none

/-- A number of plain digits. -/
def Numeral.nat? (n : Numeral) : Option Nat :=
  if !n.negative && n.fraction.isNone && n.exponent.isNone then
    some (Binary64.digitsValue n.whole)
  else none

def nat? : Json → Option Nat
  | .num n => n.nat?
  | _ => none

def str? : Json → Option String
  | .str s => some s
  | _ => none

/-! ## Text -/

/-- A lower-case digit of an escape. -/
def hexDigit (n : Nat) : Char :=
  if n < 10 then Char.ofNat (48 + n) else Char.ofNat (87 + n)

/-- A character inside a string literal: quote, backslash and control characters are escaped. -/
def escapeChar (c : Char) : List Char :=
  if c = '"' then ['\\', '"']
  else if c = '\\' then ['\\', '\\']
  else if c = '\n' then ['\\', 'n']
  else if c = '\r' then ['\\', 'r']
  else if c = '\t' then ['\\', 't']
  else if c = '\x08' then ['\\', 'b']
  else if c = '\x0c' then ['\\', 'f']
  else if c.toNat < 32 then
    ['\\', 'u', '0', '0', hexDigit (c.toNat / 16), hexDigit (c.toNat % 16)]
  else [c]

/-- A string literal with its quotes. -/
def quote (s : String) : String :=
  "\"" ++ String.ofList (s.toList.flatMap escapeChar) ++ "\""

def Numeral.text (n : Numeral) : String :=
  (if n.negative then "-" else "") ++ String.ofList n.whole
    ++ (match n.fraction with
        | some ds => "." ++ String.ofList ds
        | none => "")
    ++ (match n.exponent with
        | some e => "e" ++ toString e
        | none => "")

mutual
/-- The text of a document without blanks. -/
def compact : Json → String
  | .null => "null"
  | .bool b => if b then "true" else "false"
  | .num n => n.text
  | .str s => quote s
  | .brokenStr => "\"\""
  | .arr items => "[" ++ compactItems items ++ "]"
  | .obj entries => "\x7b" ++ compactEntries entries ++ "\x7d"
def compactItems : List Json → String
  | [] => ""
  | [x] => x.compact
  | x :: y :: rest => x.compact ++ "," ++ compactItems (y :: rest)
def compactEntries : List (String × Json) → String
  | [] => ""
  | [(k, v)] => quote k ++ ":" ++ v.compact
  | (k, v) :: e :: rest => quote k ++ ":" ++ v.compact ++ "," ++ compactEntries (e :: rest)
end

private def newline (depth : Nat) : String := "\n" ++ String.ofList (List.replicate (2 * depth) ' ')

mutual
/-- The text of a document with two blanks of indentation a level, one entry a line. -/
def prettyAt (depth : Nat) : Json → String
  | .arr [] => "[]"
  | .arr (x :: xs) =>
    "[" ++ newline (depth + 1) ++ prettyItems (depth + 1) (x :: xs) ++ newline depth ++ "]"
  | .obj [] => "\x7b\x7d"
  | .obj (e :: es) =>
    "\x7b" ++ newline (depth + 1) ++ prettyEntries (depth + 1) (e :: es) ++ newline depth ++ "\x7d"
  | .null => "null"
  | .bool b => if b then "true" else "false"
  | .num n => n.text
  | .str s => quote s
  | .brokenStr => "\"\""
def prettyItems (depth : Nat) : List Json → String
  | [] => ""
  | [x] => prettyAt depth x
  | x :: y :: rest => prettyAt depth x ++ "," ++ newline depth ++ prettyItems depth (y :: rest)
def prettyEntries (depth : Nat) : List (String × Json) → String
  | [] => ""
  | [(k, v)] => quote k ++ ": " ++ prettyAt depth v
  | (k, v) :: e :: rest =>
    quote k ++ ": " ++ prettyAt depth v ++ "," ++ newline depth ++ prettyEntries depth (e :: rest)
end

def pretty (j : Json) : String := prettyAt 0 j

mutual
/-- How many arrays and objects are open at the deepest place. -/
def depth : Json → Nat
  | .arr items => depthItems items + 1
  | .obj entries => depthEntries entries + 1
  | _ => 0
def depthItems : List Json → Nat
  | [] => 0
  | x :: rest => max x.depth (depthItems rest)
def depthEntries : List (String × Json) → Nat
  | [] => 0
  | (_, v) :: rest => max v.depth (depthEntries rest)
end

end Json

end NodeFleet

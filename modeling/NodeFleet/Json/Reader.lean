/-
  Reading JSON texts.

  * `Json.parse?`: the document that a text spells, blanks around it allowed.
-/
import NodeFleet.Json

namespace NodeFleet.Json

/-- The blanks of the format: space, line feed, carriage return and tab. -/
def isBlank (c : Char) : Bool := c = ' ' || c = '\n' || c = '\r' || c = '\t'

def skipBlanks (cs : List Char) : List Char := cs.dropWhile isBlank

def isDecimal (c : Char) : Bool := '0' ≤ c && c ≤ '9'

/-- The value of a digit of an escape. -/
def hexValue? (c : Char) : Option Nat :=
  if '0' ≤ c ∧ c ≤ '9' then some (c.toNat - 48)
  else if 'a' ≤ c ∧ c ≤ 'f' then some (c.toNat - 87)
  else if 'A' ≤ c ∧ c ≤ 'F' then some (c.toNat - 55)
  else none

/-- The code of an escape and what follows it. -/
def fourHex? : List Char → Option (Nat × List Char)
  | a :: b :: c :: d :: rest => do
    let w ← hexValue? a
    let x ← hexValue? b
    let y ← hexValue? c
    let z ← hexValue? d
    some (((w * 16 + x) * 16 + y) * 16 + z, rest)
  | _ => none

/-- The character of a short escape. -/
def shortEscape? (c : Char) : Option Char :=
  match c with
  | '"' => some '"'
  | '\\' => some '\\'
  | '/' => some '/'
  | 'b' => some '\x08'
  | 'f' => some '\x0c'
  | 'n' => some '\n'
  | 'r' => some '\r'
  | 't' => some '\t'
  | _ => none

/-- Reads a string literal after its opening quote. The characters gathered so far stand last
    first; `none` in their place marks half a surrogate pair. -/
def readString : Nat → List Char → Option (List Char) → Option (Option (List Char) × List Char)
  | 0, _, _ => none
  | _ + 1, [], _ => none
  | fuel + 1, c :: cs, acc =>
    if c = '"' then some (acc.map List.reverse, cs)
    else if c.toNat < 32 then none
    else if c ≠ '\\' then readString fuel cs (acc.map (c :: ·))
    else
      match cs with
      | [] => none
      | 'u' :: cs =>
        match fourHex? cs with
        | none => none
        | some (hi, cs) =>
          if hi < 0xD800 ∨ 0xE000 ≤ hi then readString fuel cs (acc.map (Char.ofNat hi :: ·))
          else
            match cs with
            | '\\' :: 'u' :: more =>
              match fourHex? more with
              | some (lo, rest) =>
                if hi < 0xDC00 ∧ 0xDC00 ≤ lo ∧ lo < 0xE000 then
                  let c := Char.ofNat (0x10000 + (hi - 0xD800) * 1024 + (lo - 0xDC00))
                  readString fuel rest (acc.map (c :: ·))
                else readString fuel cs none
              | none => readString fuel cs none
            | _ => readString fuel cs none
      | e :: cs =>
        match shortEscape? e with
        | some c => readString fuel cs (acc.map (c :: ·))
        | none => none

/-- Reads a numeral: no needless leading zero, a digit after a point and after a mark. -/
def readNumeral (cs : List Char) : Option (Numeral × List Char) := do
  let (negative, cs) := match cs with
    | '-' :: rest => (true, rest)
    | _ => (false, cs)
  let (whole, cs) ← match cs with
    | '0' :: rest => if (rest.head?.any isDecimal) then none else some (['0'], rest)
    | c :: _ => if isDecimal c then some (cs.takeWhile isDecimal, cs.dropWhile isDecimal) else none
    | [] => none
  let (fraction, cs) ← match cs with
    | '.' :: rest =>
      let ds := rest.takeWhile isDecimal
      if ds.isEmpty then none else some (some ds, rest.dropWhile isDecimal)
    | _ => some (none, cs)
  let (exponent, cs) ← match cs with
    | c :: rest =>
      if c = 'e' ∨ c = 'E' then
        let (below, rest) := Binary64.splitSign rest
        let ds := rest.takeWhile isDecimal
        if ds.isEmpty then none
        else
          let e : Int := Binary64.digitsValue ds
          some (some (if below then -e else e), rest.dropWhile isDecimal)
      else some (none, cs)
    | [] => some (none, [])
  return (⟨negative, whole, fraction, exponent⟩, cs)

mutual
/-- Reads one value; `fuel` bounds the steps. -/
def readValue : Nat → List Char → Option (Json × List Char)
  | 0, _ => none
  | fuel + 1, cs =>
    match skipBlanks cs with
    | 'n' :: 'u' :: 'l' :: 'l' :: rest => some (.null, rest)
    | 't' :: 'r' :: 'u' :: 'e' :: rest => some (.bool true, rest)
    | 'f' :: 'a' :: 'l' :: 's' :: 'e' :: rest => some (.bool false, rest)
    | '"' :: rest =>
      match readString (rest.length + 1) rest (some []) with
      | some (some s, rest) => some (.str (String.ofList s), rest)
      | some (none, rest) => some (.brokenStr, rest)
      | none => none
    | '[' :: rest =>
      match skipBlanks rest with
      | ']' :: rest => some (.arr [], rest)
      | rest => (readItems fuel rest).map fun (xs, rest) => (.arr xs, rest)
    | '{' :: rest =>
      match skipBlanks rest with
      | '}' :: rest => some (.obj [], rest)
      | rest => (readEntries fuel rest).map fun (es, rest) => (.obj es, rest)
    | cs => (readNumeral cs).map fun (n, rest) => (.num n, rest)
/-- Reads the items of an array, with its closing bracket. -/
def readItems : Nat → List Char → Option (List Json × List Char)
  | 0, _ => none
  | fuel + 1, cs =>
    match readValue fuel cs with
    | none => none
    | some (x, rest) =>
      match skipBlanks rest with
      | ']' :: rest => some ([x], rest)
      | ',' :: rest => (readItems fuel rest).map fun (xs, rest) => (x :: xs, rest)
      | _ => none
/-- Reads the entries of an object, with its closing brace. -/
def readEntries : Nat → List Char → Option (List (String × Json) × List Char)
  | 0, _ => none
  | fuel + 1, cs =>
    match skipBlanks cs with
    | '"' :: rest =>
      match readString (rest.length + 1) rest (some []) with
      | some (some key, rest) =>
        match skipBlanks rest with
        | ':' :: rest =>
          match readValue fuel rest with
          | none => none
          | some (x, rest) =>
            match skipBlanks rest with
            | '}' :: rest => some ([(String.ofList key, x)], rest)
            | ',' :: rest =>
              (readEntries fuel rest).map fun (es, rest) => ((String.ofList key, x) :: es, rest)
            | _ => none
        | _ => none
      | _ => none
    | _ => none
end

/-- The document that a text spells. Each step takes at least one character, so the length of
    the text bounds their number. -/
def parse? (s : String) : Option Json :=
  let cs := s.toList
  match readValue (2 * cs.length + 2) cs with
  | some (j, rest) => if (skipBlanks rest).isEmpty then some j else none
  | none => none

end NodeFleet.Json

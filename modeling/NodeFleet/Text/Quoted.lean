/-
  Texts and characters in quotes, with whatever cannot be shown spelt as an escape.

  * `quoted`: a text in double quotes.
  * `quotedChar`: a character in single quotes.
-/
import NodeFleet.Text.Quoted.Table
import NodeFleet.Text.Ranges

namespace NodeFleet.Text

private def codeEscape (c : Char) : List Char :=
  ['\\', 'u', '\x7b'] ++ Nat.toDigits 16 c.toNat ++ ['\x7d']

/-- A character inside quotes of the given kind. -/
def quoteChar (mark c : Char) : List Char :=
  if c = mark then ['\\', c]
  else if c = '\\' then ['\\', '\\']
  else if c = '\x00' then ['\\', '0']
  else if c = '\t' then ['\\', 't']
  else if c = '\r' then ['\\', 'r']
  else if c = '\n' then ['\\', 'n']
  else if 32 ≤ c.toNat ∧ c.toNat < 127 then [c]
  else if inRanges graphemeExtendRanges c || inRanges hiddenRanges c then codeEscape c
  else [c]

def quoted (s : String) : String :=
  "\"" ++ String.ofList (s.toList.flatMap (quoteChar '"')) ++ "\""

def quotedChar (c : Char) : String := "'" ++ String.ofList (quoteChar '\'' c) ++ "'"

end NodeFleet.Text

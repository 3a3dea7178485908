/-
  Lengths of time in whole milliseconds, and how messages spell them.
-/
namespace NodeFleet

/-- A length of time, or a moment since the start, in milliseconds. -/
abbrev Millis := Nat

namespace Text

private def threePlaces (n : Nat) : List Char :=
  ((Nat.toDigits 10 (1000 + n)).drop 1).reverse.dropWhile (· = '0') |>.reverse

/-- Seconds with up to three places, or milliseconds below one second; nothing at all is
    counted in nanoseconds. -/
def duration (d : Millis) : String :=
  if d = 0 then "0ns"
  else if d < 1000 then toString d ++ "ms"
  else if d % 1000 = 0 then toString (d / 1000) ++ "s"
  else toString (d / 1000) ++ "." ++ String.ofList (threePlaces (d % 1000)) ++ "s"

end Text

end NodeFleet

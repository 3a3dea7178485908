/-
  Integers of 32 bits from text.

  * `Text.parseInt32`: an optional sign and decimal digits. The digits are taken in turn, so of
    a bad digit and an overflow the one further left is reported.
-/
import NodeFleet.Error

namespace NodeFleet.Text

private def digitValue? (c : Char) : Option Nat :=
  if '0' ≤ c ∧ c ≤ '9' then some (c.toNat - 48) else none

/-- Takes digits into `v` while it stays within `limit`. -/
private def takeDigits (limit : Nat) (beyond : IntegerError) : List Char → Nat →
    Except IntegerError Nat
  | [], v => .ok v
  | c :: cs, v =>
    match digitValue? c with
    | none => .error .badDigit
    | some d =>
      if 10 * v + d ≤ limit then takeDigits limit beyond cs (10 * v + d) else .error beyond

def parseInt32 (s : String) : Except IntegerError Int :=
  match s.toList with
  | [] => .error .empty
  | ['-'] => .error .badDigit
  | ['+'] => .error .badDigit
  | '-' :: ds => (takeDigits (twoTo 31) .tooSmall ds 0).map fun n => -(n : Int)
  | '+' :: ds => (takeDigits (twoTo 31 - 1) .tooLarge ds 0).map fun n => (n : Int)
  | ds => (takeDigits (twoTo 31 - 1) .tooLarge ds 0).map fun n => (n : Int)

end NodeFleet.Text

/-
  Lower-case texts.

  * `lower`: every character mapped to its lower-case form. A capital sigma at the end of a
    word takes the final form; the dotted capital `İ` becomes two characters.
-/
import NodeFleet.Text.Case.Table
import NodeFleet.Text.Ranges

namespace NodeFleet.Text

private def isCased (c : Char) : Bool := inRanges casedRanges c
private def isCaseIgnorable (c : Char) : Bool := inRanges caseIgnorableRanges c

/-- The lower-case form of a character on its own. -/
def lowerChar (c : Char) : List Char :=
  let n := c.toNat
  if n = 0x130 then ['i', Char.ofNat 0x307]
  else
    match lowerRuns.find? fun r => r.first ≤ n && n ≤ r.last && (n - r.first) % r.step == 0 with
    | some r => [Char.ofNat ((n : Int) + r.shift).toNat]
    | none => [c]

/-- Whether the nearest character that casing does not ignore is a cased one. -/
private def meetsCased (cs : List Char) : Bool := (cs.dropWhile isCaseIgnorable).head?.any isCased

/-- Lower-cases a text; `before` holds what stands in front, nearest first. -/
def lowerFrom (before : List Char) : List Char → List Char
  | [] => []
  | c :: cs =>
    let here :=
      if c.toNat = 0x3a3 then
        if meetsCased before && !meetsCased cs then [Char.ofNat 0x3c2] else [Char.ofNat 0x3c3]
      else lowerChar c
    here ++ lowerFrom (c :: before) cs

def lower (s : String) : String := String.ofList (lowerFrom [] s.toList)

end NodeFleet.Text

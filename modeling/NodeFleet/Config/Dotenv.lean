/-
  Files of variable settings, one `NAME=value` a line.

  * `Dotenv.lines`: a file cut into settings; a quoted value may go on over several lines.
  * `Dotenv.readLine`: the setting of a line, with comments, quotes, escapes and the values of
    other variables.
  * `Dotenv.load`: the variables that a file adds to an environment. A mark of byte order at
    its beginning does not count.
-/
import NodeFleet.Text.Alphanumeric
import NodeFleet.Text.Blank
import NodeFleet.Text.Utf8

namespace NodeFleet

/-- Variables and their values, which need not be text. -/
abbrev Environment := List (String × Bytes)

/-- The value of a variable that is set to a text. -/
def Environment.text? (env : Environment) (name : String) : Option String :=
  (env.lookup name).bind Utf8.decode?

/-- Sets a variable, whatever it was. -/
def Environment.set (env : Environment) (name value : String) : Environment :=
  (name, Utf8.encode value) :: env.filter (·.1 != name)

namespace Dotenv

/-! ## Lines -/

/-- Where a piece of a file ends: inside quotes, behind a backslash, behind a blank, in a
    comment, or none of these. -/
inductive State where
  | plain
  | blank
  | escape
  | weak
  | weakEscape
  | strong
  | strongEscape
  | comment
  deriving DecidableEq

private def openState (c : Char) : State :=
  if c = '\\' then .escape
  else if c = '"' then .weak
  else if c = '\'' then .strong
  else .plain

def State.next (s : State) (c : Char) : State :=
  match s with
  | .plain =>
    if Text.isBlank c && c ≠ '\n' && c ≠ '\r' then .blank else openState c
  | .blank => if c = '#' then .comment else openState c
  | .escape => .plain
  | .weak => if c = '\\' then .weakEscape else if c = '"' then .plain else .weak
  | .weakEscape => .weak
  | .strong => if c = '\\' then .strongEscape else if c = '\'' then .plain else .strong
  | .strongEscape => .strong
  | .comment => .comment

/-- The state at the end of a line, and the line without its comment. -/
def scanLine (s : State) : List Char → State × List Char
  | [] => (s, [])
  | c :: cs =>
    match s.next c with
    | .comment => (.comment, [])
    | s =>
      let (s, rest) := scanLine s cs
      (s, c :: rest)

/-- The lines of a file, each with its line feed. -/
def rawLines : List Char → List (List Char)
  | [] => []
  | '\n' :: cs => ['\n'] :: rawLines cs
  | c :: cs =>
    match rawLines cs with
    | [] => [[c]]
    | l :: ls => if l.isEmpty then [[c]] else (c :: l) :: ls

private def dropLineEnd (cs : List Char) : List Char :=
  match cs.reverse with
  | '\n' :: '\r' :: rest => rest.reverse
  | '\n' :: rest => rest.reverse
  | _ => cs

/-- Joins lines into settings; `none` where the file ends inside one. `before` is what has
    been read of the present one. -/
def joinLines (s : State) (before : List Char) : List (List Char) → List (Option (List Char))
  | [] => if s = .plain then [] else [none]
  | l :: ls =>
    let whole := before ++ l
    if (whole.dropWhile Text.isBlank).head? = some '#' then some [] :: joinLines .plain [] ls
    else
      match scanLine s l with
      | (.comment, kept) => some (before ++ kept) :: joinLines .plain [] ls
      | (.plain, _) => some (dropLineEnd whole) :: joinLines .plain [] ls
      | (s, _) => joinLines s whole ls

def lines (cs : List Char) : List (Option (List Char)) := joinLines .plain [] (rawLines cs)

/-! ## Values -/

/-- Whether a name of another variable is being read, and how it ends. -/
inductive Naming where
  | none
  | bare (name : List Char)
  | braced (name : List Char)

/-- What is known while a value is read; output and names stand last character first. -/
structure Reading where
  strong : Bool
  weak : Bool
  escaped : Bool
  ending : Bool
  naming : Naming
  output : List Char

private def valueOf (env : Environment) (known : List (String × String)) (name : List Char) :
    List Char :=
  let name := String.ofList name.reverse
  match env.text? name with
  | some v => v.toList.reverse
  | none => ((known.lookup name).getD "").toList.reverse

private def substitute (env : Environment) (known : List (String × String)) (r : Reading)
    (name : List Char) (naming : Naming) : Reading :=
  { r with naming, output := valueOf env known name ++ r.output }

private def push (r : Reading) (c : Char) : Reading := { r with output := c :: r.output }

/-- Takes one more character of a value. `none` is a malformed value, and `some (_, false)` the
    end before a comment. -/
def Reading.take (env : Environment) (known : List (String × String)) (r : Reading) (c : Char) :
    Option (Reading × Bool) :=
  let go (r : Reading) : Option (Reading × Bool) := some (r, true)
  if r.ending then
    if c = ' ' ∨ c = '\t' then go r else if c = '#' then some (r, false) else none
  else if r.escaped then
    if ['\\', '\'', '"', '$', ' '].contains c then go { push r c with escaped := false }
    else if c = 'n' then go { push r '\n' with escaped := false }
    else none
  else if r.strong then
    if c = '\'' then go { r with strong := false } else go (push r c)
  else
    match r.naming with
    | .bare name =>
      if Text.isAlphanumeric c then go { r with naming := .bare (c :: name) }
      else if c = '\x7b' ∧ name = [] then go { r with naming := .braced [] }
      else if c = '$' then go (substitute env known r name (.bare []))
      else go (push (substitute env known r name .none) c)
    | .braced name =>
      if c = '\x7d' then go (substitute env known r name .none)
      else go { r with naming := .braced (c :: name) }
    | .none =>
      if c = '$' then go { r with naming := .bare [] }
      else if r.weak then
        if c = '"' then go { r with weak := false }
        else if c = '\\' then go { r with escaped := true }
        else go (push r c)
      else if c = '\'' then go { r with strong := true }
      else if c = '"' then go { r with weak := true }
      else if c = '\\' then go { r with escaped := true }
      else if c = ' ' ∨ c = '\t' then go { r with ending := true }
      else go (push r c)

private def readAll (env : Environment) (known : List (String × String)) :
    List Char → Reading → Option Reading
  | [], r => some r
  | c :: cs, r =>
    match r.take env known c with
    | none => none
    | some (r, true) => readAll env known cs r
    | some (r, false) => some r

/-- The value that the text behind the equals sign stands for. -/
def readValue? (env : Environment) (known : List (String × String)) (cs : List Char) :
    Option String := do
  let r ← readAll env known cs ⟨false, false, false, false, .none, []⟩
  if r.strong || r.weak then none
  let output ← match r.naming with
    | .braced _ => none
    | .bare name => some (valueOf env known name ++ r.output)
    | .none => some r.output
  return String.ofList output.reverse

/-! ## Settings -/

private def isKeyStart (c : Char) : Bool :=
  ('a' ≤ c && c ≤ 'z') || ('A' ≤ c && c ≤ 'Z') || c = '_'

private def isKeyChar (c : Char) : Bool := isKeyStart c || ('0' ≤ c && c ≤ '9') || c = '.'

private def skipBlanks (cs : List Char) : List Char := cs.dropWhile Text.isBlank

private def readKey? (cs : List Char) : Option (String × List Char) :=
  if cs.head?.any isKeyStart then
    some (String.ofList (cs.takeWhile isKeyChar), skipBlanks (cs.dropWhile isKeyChar))
  else none

/-- The setting of a line, if it has one; the outer `none` is a malformed line. -/
def readLine (env : Environment) (known : List (String × String)) (line : List Char) :
    Option (Option (String × String)) := do
  let cs := skipBlanks (line.reverse.dropWhile Text.isBlank).reverse
  if cs.isEmpty || cs.head? == some '#' then return none
  let (key, rest) ← readKey? cs
  let (key, rest) ← match rest with
    | '=' :: rest => some (key, rest)
    | _ =>
      if key = "export" then
        match readKey? rest with
        | some (key, '=' :: rest) => some (key, rest)
        | _ => none
      else none
  let rest := skipBlanks rest
  if rest.isEmpty || rest.head? == some '#' then return some (key, "")
  let value ← readValue? env known rest
  return some (key, value)

/-- Adds the settings of a file, up to the first malformed one; a variable that is set to a
    text already keeps it. -/
def loadLines (env : Environment) (known : List (String × String)) :
    List (Option (List Char)) → Environment
  | [] => env
  | none :: _ => env
  | some line :: rest =>
    match readLine env known line with
    | none => env
    | some none => loadLines env known rest
    | some (some (key, value)) =>
      let env' := if (env.text? key).isSome then env else env.set key value
      loadLines env' ((key, value) :: known) rest

/-- A file without the mark of byte order that it may begin with. -/
def withoutMark : List Char → List Char
  | '\ufeff' :: cs => cs
  | cs => cs

def load (file : String) (env : Environment) : Environment :=
  loadLines env [] (lines (withoutMark file.toList))

/-- The same with a file that need not be there. -/
def loadFrom (settings : Option String) (env : Environment) : Environment :=
  settings.elim env (load · env)

end Dotenv

end NodeFleet

/-
  Lists of named nodes in one text, `name=url,name=url`.

  * `NodeEntry.parseList`: empty items are left out, blanks around names and addresses do not
    count, the first equals sign of an item divides it, and no name may occur twice.
  * `NodeEntry.renderList`: writes a list.
-/
import NodeFleet.Error
import NodeFleet.Text.Blank

namespace NodeFleet

/-- A named node and where it listens. -/
structure NodeEntry where
  name : String
  url : String
  deriving DecidableEq

namespace NodeEntry

/-- The pieces of a text between a mark. -/
def splitAt (mark : Char) : List Char → List (List Char)
  | [] => [[]]
  | c :: cs =>
    match splitAt mark cs with
    | [] => [[c]]
    | piece :: pieces => if c = mark then [] :: piece :: pieces else (c :: piece) :: pieces

/-- The items of a list: cut at commas, trimmed, the empty ones left out. -/
def items (cs : List Char) : List (List Char) :=
  ((splitAt ',' cs).map Text.trimChars).filter (!·.isEmpty)

/-- The parts of an item before and behind its first equals sign. -/
def cut? (item : List Char) : Option (List Char × List Char) :=
  match item.dropWhile (· ≠ '=') with
  | [] => none
  | _ :: rest => some (item.takeWhile (· ≠ '='), rest)

/-- The entry that an item spells. -/
def ofItem? (item : List Char) : Option NodeEntry :=
  match cut? item with
  | none => none
  | some (name, url) =>
    let name := Text.trimChars name
    let url := Text.trimChars url
    if name.isEmpty || url.isEmpty then none
    else some ⟨String.ofList name, String.ofList url⟩

/-- Adds the entries of items to those read before them. -/
def addItems (before : List NodeEntry) : List (List Char) → Except ConfigError (List NodeEntry)
  | [] => .ok before
  | item :: rest =>
    match ofItem? item with
    | none => .error (.malformedNode (String.ofList item))
    | some e =>
      if before.any (·.name == e.name) then .error (.duplicateNode e.name)
      else addItems (before ++ [e]) rest

def parseList (s : String) : Except ConfigError (List NodeEntry) :=
  match addItems [] (items s.toList) with
  | .error e => .error e
  | .ok [] => .error .noNodes
  | .ok entries => .ok entries

/-- One entry as a list item. -/
def render (e : NodeEntry) : String := e.name ++ "=" ++ e.url

def renderList (entries : List NodeEntry) : String := String.intercalate "," (entries.map render)

end NodeEntry

end NodeFleet

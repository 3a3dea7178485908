/-
  Web addresses.

  * `Url.parse?`: reads an address: a scheme, for most schemes a host, a path, a query and a
    fragment. Numeric hosts are checked; letters outside the basic set are let through.
  * `Url.text`: the normal form: scheme and host in lower case, no number behind the host
    that goes without saying, no dots in the path, and no character that has to be escaped.
-/
import NodeFleet.Bytes.Hex
import NodeFleet.Number.Binary64
import NodeFleet.Text.Utf8

namespace NodeFleet

/-- An address in its parts. -/
structure Url where
  scheme : String
  userinfo : String
  host : Option String
  portNumber : Option Nat
  path : String
  query : Option String
  fragment : Option String

namespace Url

private def isLetter (c : Char) : Bool := ('a' ≤ c && c ≤ 'z') || ('A' ≤ c && c ≤ 'Z')

private def isDigit (c : Char) : Bool := '0' ≤ c && c ≤ '9'

/-! ## Escapes -/

private def upperHex (n : Nat) : Char := if n < 10 then Char.ofNat (48 + n) else Char.ofNat (55 + n)

/-- Writes the characters of a class byte by byte in hexadecimal. -/
def escapeWith (escaped : Char → Bool) (cs : List Char) : List Char :=
  cs.flatMap fun c =>
    if escaped c then
      (Utf8.encode (String.singleton c)).flatMap fun b =>
        ['%', upperHex (b.toNat / 16), upperHex (b.toNat % 16)]
    else [c]

private def isControl (c : Char) : Bool := c < ' ' || '~' < c

private def isFragmentEscaped (c : Char) : Bool := isControl c || [' ', '"', '<', '>', '\x60'].contains c

private def isQueryEscaped (special : Bool) (c : Char) : Bool :=
  isControl c || [' ', '"', '#', '<', '>'].contains c || (special && c == '\'')

private def isPathEscaped (c : Char) : Bool :=
  isFragmentEscaped c || ['#', '?', '\x7b', '\x7d'].contains c

private def isUserinfoEscaped (c : Char) : Bool :=
  isPathEscaped c || ['/', ';', '=', '@', '[', '\\', ']', '^', '|'].contains c

/-- The bytes that a text with escapes stands for. -/
def unescape : List Char → Bytes
  | [] => []
  | '%' :: a :: b :: rest =>
    match Hex.digitValue? a, Hex.digitValue? b with
    | some x, some y => UInt8.ofNat (16 * x + y) :: unescape rest
    | _, _ => 37 :: unescape (a :: b :: rest)
  | c :: rest => Utf8.encode (String.singleton c) ++ unescape rest

/-! ## Hosts -/

/-- The number behind a host that goes without saying, for the schemes that always have a host. -/
def standardPortNumber? (scheme : String) : Option Nat :=
  match scheme with
  | "http" | "ws" => some 80
  | "https" | "wss" => some 443
  | "ftp" => some 21
  | _ => none

private def piecesAt (mark : Char) : List Char → List (List Char)
  | [] => [[]]
  | c :: cs =>
    match piecesAt mark cs with
    | [] => [[c]]
    | p :: ps => if c = mark then [] :: p :: ps else (c :: p) :: ps

private def valueIn? (base : Nat) (ds : List Char) : Option Nat :=
  ds.foldl (fun v c =>
    match v, Hex.digitValue? c with
    | some v, some d => if d < base then some (base * v + d) else none
    | _, _ => none) (some 0)

/-- A number in a numeric host: hexadecimal, octal or decimal by its beginning. -/
private def hostNumber? : List Char → Option Nat
  | [] => none
  | '0' :: 'x' :: ds => valueIn? 16 ds
  | '0' :: ds => valueIn? 8 ds
  | ds => valueIn? 10 ds

private def labels (host : List Char) : List (List Char) :=
  let ps := piecesAt '.' host
  if ps.length > 1 ∧ ps.getLast? = some [] then ps.dropLast else ps

/-- Whether a host has to be numeric. -/
private def endsInNumber (host : List Char) : Bool :=
  match (labels host).getLast? with
  | some ('0' :: 'x' :: ds) => (valueIn? 16 ds).isSome
  | some ds => !ds.isEmpty && ds.all isDigit
  | none => false

/-- The value of a numeric host: the last number fills the places that are left. -/
private def numericHost? (host : List Char) : Option Nat := do
  let ps := labels host
  if ps.length > 4 then none
  let ns ← ps.mapM hostNumber?
  let last ← ns.getLast?
  let front := ns.dropLast
  if front.any (· > 255) ∨ last ≥ twoTo (8 * (5 - ns.length)) then none
  return front.zipIdx.foldl (fun total (n, i) => total + n * twoTo (8 * (3 - i))) last

private def dotted (n : Nat) : String :=
  String.intercalate "." ((beBytes 4 n).map fun b => toString b.toNat)

/-! An address of 128 bits is written in eight groups of hexadecimal digits. One run of zero
groups may be left out, and the last two groups may be written like an address of 32 bits. -/

private def groupValue? (g : List Char) : Option Nat :=
  if g.isEmpty ∨ g.length > 4 then none else valueIn? 16 g

private def octet? (ds : List Char) : Option Nat :=
  if ds.isEmpty ∨ (ds.length > 1 ∧ ds.head? = some '0') then none
  else (valueIn? 10 ds).filter (· < 256)

private def groups? : List (List Char) → Option (List Nat)
  | [] => some []
  | [g] =>
    match groupValue? g, (piecesAt '.' g).mapM octet? with
    | some v, _ => some [v]
    | none, some [a, b, c, d] => some [256 * a + b, 256 * c + d]
    | none, _ => none
  | g :: gs =>
    match groupValue? g, groups? gs with
    | some v, some vs => some (v :: vs)
    | _, _ => none

/-- The texts before and behind the first two colons in a row, if there are any. -/
private def splitGap : List Char → List Char × Option (List Char)
  | [] => ([], none)
  | ':' :: ':' :: rest => ([], some rest)
  | c :: rest => (c :: (splitGap rest).1, (splitGap rest).2)

private def groupPieces (cs : List Char) : List (List Char) :=
  if cs.isEmpty then [] else piecesAt ':' cs

private def bracketed? (cs : List Char) : Option (List Nat) := do
  match splitGap cs with
  | (cs, none) => (groups? (groupPieces cs)).filter (·.length = 8)
  | (front, some back) =>
    let front ← (groupPieces front).mapM groupValue?
    let back ← groups? (groupPieces back)
    let written := front.length + back.length
    if written < 8 then some (front ++ List.replicate (8 - written) 0 ++ back) else none

/-- The groups with the first of the longest runs of zeros left out, if it is one of several. -/
private def groupsText (gs : List Nat) : String :=
  let digits (gs : List Nat) : String :=
    String.intercalate ":" (gs.map fun g => String.ofList (Nat.toDigits 16 g))
  let run (i : Nat) : Nat := ((gs.drop i).takeWhile (· = 0)).length
  let start := (List.range gs.length).foldl (fun best i => if run i > run best then i else best) 0
  if run start < 2 then digits gs
  else digits (gs.take start) ++ "::" ++ digits (gs.drop (start + run start))

private def isForbiddenInHost (c : Char) : Bool :=
  c ≤ ' ' || c == '\x7f' || ['#', '/', ':', '<', '>', '?', '@', '[', '\\', ']', '^', '|', '%'].contains c

/-- The normal form of a host. -/
def host? (special : Bool) (cs : List Char) : Option String :=
  match cs with
  | '[' :: rest =>
    if rest.getLast? = some ']' then
      (bracketed? rest.dropLast).map fun gs => "[" ++ groupsText gs ++ "]"
    else none
  | cs =>
    if special then
      let plain := (Utf8.decodeLossy (unescape cs)).toList.map Char.toLower
      if plain.isEmpty ∨ plain.any isForbiddenInHost then none
      else if endsInNumber plain then (numericHost? plain).map dotted
      else some (String.ofList plain)
    else if cs.any fun c => isForbiddenInHost c && c != '%' then none
    else some (String.ofList (escapeWith isControl cs))

/-- The number behind a host, if one is written; it has 16 bits. -/
def portNumber? (cs : List Char) : Option (Option Nat) :=
  if cs.isEmpty then some none
  else
    let n := Binary64.digitsValue cs
    if cs.all isDigit ∧ n < 65536 then some (some n) else none

/-- The parts of a text before and behind the last `@`. -/
private def cutUserinfo (cs : List Char) : List Char × List Char :=
  let back := cs.reverse
  match back.dropWhile (· ≠ '@') with
  | [] => ([], cs)
  | _ :: front => (front.reverse, (back.takeWhile (· ≠ '@')).reverse)

/-- The host and what stands behind its colon. -/
private def cutHost (cs : List Char) : List Char × List Char :=
  match cs with
  | '[' :: _ =>
    let inside := cs.takeWhile (· ≠ ']')
    match cs.drop (inside.length + 1) with
    | ':' :: digits => (cs.take (inside.length + 1), digits)
    | rest => (cs.take (inside.length + 1) ++ rest, [])
  | _ => (cs.takeWhile (· ≠ ':'), (cs.dropWhile (· ≠ ':')).drop 1)

/-! ## Paths -/

private def isDot (segment : List Char) : Bool :=
  let s := String.ofList (segment.map Char.toLower)
  s == "." || s == "%2e"

private def isDots (segment : List Char) : Bool :=
  let s := String.ofList (segment.map Char.toLower)
  s == ".." || s == ".%2e" || s == "%2e." || s == "%2e%2e"

/-- Segments without those that mean this place and the place above it. -/
def resolveDots : List (List Char) → List (List Char) → List (List Char)
  | before, [] => before
  | before, [s] =>
    if isDots s then before.dropLast ++ [[]]
    else if isDot s then before ++ [[]]
    else before ++ [s]
  | before, s :: rest =>
    if isDots s then resolveDots before.dropLast rest
    else if isDot s then resolveDots before rest
    else resolveDots (before ++ [s]) rest

/-- A path that begins with a slash, from the text behind that slash. -/
private def slashedPath (special : Bool) (cs : List Char) : String :=
  let cs := if special then cs.map fun c => if c = '\\' then '/' else c else cs
  let segments := resolveDots [] (piecesAt '/' cs)
  String.ofList (segments.flatMap fun s => '/' :: escapeWith isPathEscaped s)

/-! ## Addresses -/

private def isTrimmed (c : Char) : Bool := c ≤ ' '

/-- Without blanks around it and without line breaks. -/
private def clean (cs : List Char) : List Char :=
  let cs := (cs.dropWhile isTrimmed).reverse.dropWhile isTrimmed |>.reverse
  cs.filter fun c => !(c == '\t' || c == '\n' || c == '\r')

private def scheme? (cs : List Char) : Option (String × List Char) :=
  let name := cs.takeWhile fun c => isLetter c || isDigit c || c == '+' || c == '-' || c == '.'
  match name.head?.filter isLetter, cs.drop name.length with
  | some _, ':' :: rest => some (String.ofList (name.map Char.toLower), rest)
  | _, _ => none

/-- The parts of a text before and behind the first of a mark. -/
private def cutFirst (mark : Char) (cs : List Char) : List Char × Option (List Char) :=
  match cs.dropWhile (· ≠ mark) with
  | [] => (cs, none)
  | _ :: rest => (cs.takeWhile (· ≠ mark), some rest)

private def userinfoText (cs : List Char) : String :=
  let (user, password) := cutFirst ':' cs
  match password with
  | some (c :: p) =>
    String.ofList (escapeWith isUserinfoEscaped user ++ ':' :: escapeWith isUserinfoEscaped (c :: p))
  | _ => String.ofList (escapeWith isUserinfoEscaped user)

private structure Place where
  userinfo : String
  host : Option String
  portNumber : Option Nat
  path : String

/-- Host and path from the text behind the slashes in front of the host. -/
private def place? (special : Bool) (scheme : String) (cs : List Char) : Option Place := do
  let isEnd (c : Char) : Bool := c == '/' || (special && c == '\\')
  let (user, place) := cutUserinfo (cs.takeWhile (!isEnd ·))
  let rest := cs.dropWhile (!isEnd ·)
  let (hostText, digits) := cutHost place
  let portNumber ← portNumber? digits
  if hostText.isEmpty ∧ (special ∨ !user.isEmpty ∨ portNumber.isSome) then none
  let host ← if hostText.isEmpty then some "" else host? special hostText
  let path := match rest with
    | [] => if special then "/" else ""
    | _ :: rest => slashedPath special rest
  let portNumber := portNumber.filter fun n => some n != standardPortNumber? scheme
  return ⟨userinfoText user, some host, portNumber, path⟩

private def filePlace? (cs : List Char) : Option Place :=
  match cs with
  | '/' :: '/' :: rest =>
    let host := rest.takeWhile (· ≠ '/')
    let path := slashedPath true ((rest.dropWhile (· ≠ '/')).drop 1)
    if host.isEmpty then some ⟨"", some "", none, path⟩
    else (host? true host).map fun h => ⟨"", some (if h == "localhost" then "" else h), none, path⟩
  | '/' :: rest => some ⟨"", some "", none, slashedPath true rest⟩
  | rest => some ⟨"", some "", none, slashedPath true rest⟩

private def otherPlace? (scheme : String) (cs : List Char) : Option Place :=
  match cs with
  | '/' :: '/' :: rest => place? false scheme rest
  | '/' :: rest => some ⟨"", none, none, slashedPath false rest⟩
  | rest => some ⟨"", none, none, String.ofList (escapeWith isControl rest)⟩

/-- The address that a text spells. -/
def parse? (s : String) : Option Url := do
  let (scheme, rest) ← scheme? (clean s.toList)
  let (rest, fragment) := cutFirst '#' rest
  let (rest, query) := cutFirst '?' rest
  let special := (standardPortNumber? scheme).isSome
  let place ←
    if special then place? true scheme (rest.dropWhile fun c => c == '/' || c == '\\')
    else if scheme = "file" then filePlace? rest
    else otherPlace? scheme rest
  return {
    scheme
    userinfo := place.userinfo
    host := place.host
    portNumber := place.portNumber
    path := place.path
    query := query.map fun q => String.ofList (escapeWith (isQueryEscaped special) q)
    fragment := fragment.map fun f => String.ofList (escapeWith isFragmentEscaped f) }

/-- The normal form. -/
def text (u : Url) : String :=
  u.scheme ++ ":"
    ++ (match u.host with
        | some h =>
          "//" ++ (if u.userinfo.isEmpty then "" else u.userinfo ++ "@") ++ h
            ++ (match u.portNumber with
                | some p => ":" ++ toString p
                | none => "")
        | none => "")
    ++ u.path
    ++ (match u.query with
        | some q => "?" ++ q
        | none => "")
    ++ (match u.fragment with
        | some f => "#" ++ f
        | none => "")

def hasHost (u : Url) : Bool := u.host.any (!·.isEmpty)

/-- Without the name and the password in front of the host, if they are text: a request carries
    them apart. -/
def withoutCredentials (u : Url) : Url :=
  let (name, password) := cutFirst ':' u.userinfo.toList
  let isText (cs : List Char) : Bool := (Utf8.decode? (unescape cs)).isSome
  if isText name && (!name.isEmpty || password.any isText) then { u with userinfo := "" } else u

/-- Whether an address can be asked for a document. -/
def isWeb (u : Url) : Bool := u.scheme == "http" || u.scheme == "https"

end Url

end NodeFleet

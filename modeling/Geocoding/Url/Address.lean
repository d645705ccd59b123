import Geocoding.Url.Host

/-!
# URLs

The parts of a URL, reading them from a text, and writing them. Reading puts every part into its one
written form: the scheme and the domain in lower case, a port that is the scheme's own left out, dots in
the path resolved, characters encoded where they have to be.
-/

namespace Geocoding

namespace Url

/-- Who is asked, and where. User name and password are encoded. -/
structure Authority where
  username : List Char
  password : List Char
  host : Option Host
  port : Option Nat
  deriving DecidableEq, Repr

/-- A path, encoded. -/
inductive Path where
  /-- A path that does not begin with a slash and is not divided. -/
  | plain (text : List Char)
  | segments (ss : List (List Char))
  deriving DecidableEq, Repr

end Url

/-- A URL; query and fragment are encoded. -/
structure Url where
  scheme : List Char
  authority : Option Url.Authority
  path : Url.Path
  query : Option (List Char)
  fragment : Option (List Char)
  deriving DecidableEq, Repr

namespace Url

/-! ## Writing -/

/-- User name and password with their separators. -/
def Authority.userinfoText (a : Authority) : List Char :=
  if a.username.isEmpty && a.password.isEmpty then []
  else a.username ++ (if a.password.isEmpty then [] else ':' :: a.password) ++ ['@']

/-- The text of an authority. -/
def Authority.text (a : Authority) : List Char :=
  a.userinfoText ++ (a.host.map Host.text).getD [] ++
    (match a.port with
    | some n => ':' :: Nat.toDigits 10 n
    | none => [])

/-- The text of a path. -/
def Path.text : Path → List Char
  | plain text => text
  | segments ss => ss.flatMap ('/' :: ·)

/-- The authority and the path. A path that would begin with two slashes and read as an authority gets a
dot in front. -/
def hierarchyText (authority : Option Authority) (path : Path) : List Char :=
  match authority, path with
  | some a, p => '/' :: '/' :: a.text ++ p.text
  | none, .segments ([] :: s :: ss) => '/' :: '.' :: (Path.segments ([] :: s :: ss)).text
  | none, p => p.text

/-- A part with its mark, if there is one. -/
def markedText (mark : Char) : Option (List Char) → List Char
  | some cs => mark :: cs
  | none => []

/-- The characters of a URL. -/
def chars (u : Url) : List Char :=
  u.scheme ++ ':' :: hierarchyText u.authority u.path ++ markedText '?' u.query ++
    markedText '#' u.fragment

/-- The text of a URL. -/
def text (u : Url) : String := .ofList u.chars

/-! ## Reading -/

/-- What is known of a scheme. -/
inductive SchemeKind where
  | file
  /-- A scheme with an authority and a port of its own. -/
  | withPort (port : Nat)
  | unknown
  deriving DecidableEq, Repr

/-- The kind of a scheme. -/
def SchemeKind.of (scheme : List Char) : SchemeKind :=
  match String.ofList scheme with
  | "file" => .file
  | "http" | "ws" => .withPort 80
  | "https" | "wss" => .withPort 443
  | "ftp" => .withPort 21
  | _ => .unknown

/-- Whether a backslash is a slash. -/
def SchemeKind.isSpecial (k : SchemeKind) : Bool := k != .unknown

/-- Whether `c` separates the segments of a path. -/
def SchemeKind.isSlash (k : SchemeKind) (c : Char) : Bool := c == '/' || (k.isSpecial && c == '\\')

/-- Whether `c` may follow in a scheme. -/
def isSchemeChar (c : Char) : Bool := c.isAlphanum || c == '+' || c == '-' || c == '.'

/-- The scheme in lower case and the text after its colon. -/
def splitScheme? : List Char → Option (List Char × List Char)
  | [] => none
  | c :: cs =>
    if !c.isAlpha then none
    else match (c :: cs).dropWhile isSchemeChar with
      | ':' :: rest => some (((c :: cs).takeWhile isSchemeChar).map Char.toLower, rest)
      | _ => none

/-- The text before the first `mark`, and the text after it. -/
def splitMark (mark : Char) (cs : List Char) : List Char × Option (List Char) :=
  (cs.takeWhile (· != mark),
    match cs.dropWhile (· != mark) with
    | [] => none
    | _ :: rest => some rest)

/-- The text before the last `mark`, if there is one, and the text after it. -/
def splitLastMark (mark : Char) (cs : List Char) : Option (List Char) × List Char :=
  let (after, before) := splitMark mark cs.reverse
  (before.map List.reverse, after.reverse)

/-- Whether a segment stands for the directory itself. -/
def isHere (s : List Char) : Bool :=
  match s.map Char.toLower with
  | ['.'] | ['%', '2', 'e'] => true
  | _ => false

/-- Whether a segment stands for the directory above. -/
def isAbove (s : List Char) : Bool :=
  match s.map Char.toLower with
  | ['.', '.'] | ['.', '%', '2', 'e'] | ['%', '2', 'e', '.'] | ['%', '2', 'e', '%', '2', 'e'] => true
  | _ => false

/-- Whether a segment names a drive. -/
def isDrive : List Char → Bool
  | [letter, colon] => letter.isAlpha && (colon == ':' || colon == '|')
  | _ => false

/-- Removes the last segment of a path (which stands first); a drive stays. -/
def shorten (k : SchemeKind) : List (List Char) → List (List Char)
  | [] => []
  | [s] => if k = .file ∧ isDrive s then [s] else []
  | _ :: ss => ss

/-- Adds a segment to a path, last segment first. -/
def addSegment (k : SchemeKind) (path : List (List Char)) (s : List Char) (isLast : Bool) :
    List (List Char) :=
  if isAbove s then
    let path := shorten k path
    if isLast then [] :: path else path
  else if isHere s then
    if isLast then [] :: path else path
  else if k = .file ∧ path.isEmpty ∧ isDrive s then [s.take 1 ++ [':']]
  else encoded inPath s :: path

/-- Adds segments to a path, last segment first. -/
def addSegments (k : SchemeKind) (path : List (List Char)) : List (List Char) → List (List Char)
  | [] => path
  | [s] => addSegment k path s true
  | s :: ss => addSegments k (addSegment k path s false) ss

/-- The path that a text spells, without the slash in front. -/
def segmentsOf (k : SchemeKind) (cs : List Char) : List (List Char) :=
  (addSegments k [] (cs.splitOnP k.isSlash)).reverse

/-- The path after an authority. -/
def pathAfterAuthority (k : SchemeKind) : List Char → Path
  | [] => .segments (if k.isSpecial then [[]] else [])
  | c :: cs => .segments (segmentsOf k (if k.isSlash c then cs else c :: cs))

/-- The user name and password that a text spells. -/
def readUserinfo (cs : List Char) : List Char × List Char :=
  let (username, password) := splitMark ':' cs
  (encoded inUserinfo username, encoded inUserinfo (password.getD []))

/-- The host's text, up to a colon that is not in brackets, and the rest. -/
def splitHost (inBrackets : Bool) : List Char → List Char × List Char
  | [] => ([], [])
  | c :: cs =>
    if c = ':' ∧ !inBrackets then ([], c :: cs)
    else
      let inBrackets := if c = '[' then true else if c = ']' then false else inBrackets
      let (host, rest) := splitHost inBrackets cs
      (c :: host, rest)

/-- The port after a host, unless it is the scheme's own, and the text after it. -/
def readPort (k : SchemeKind) : List Char → Except Error (Option Nat × List Char)
  | ':' :: cs =>
    let ds := cs.takeWhile Char.isDigit
    let rest := cs.dropWhile Char.isDigit
    let n := Nat.ofDigitChars 10 ds 0
    if n > 65535 then .error .port
    else if !(rest.isEmpty || rest.head? == some '\\') then .error .port
    else .ok (if ds.isEmpty || k = .withPort n then none else some n, rest)
  | cs => .ok (none, cs)

/-- Reads the authority and the path after two slashes; `followed` tells whether a query or a fragment
comes after them. -/
def readAuthority (k : SchemeKind) (cs : List Char) (followed : Bool) :
    Except Error (Authority × Path) := do
  let authority := cs.takeWhile (!k.isSlash ·)
  let rest := cs.dropWhile (!k.isSlash ·)
  let (userinfo, hostAndPort) := splitLastMark '@' authority
  if userinfo = some [] ∧ hostAndPort = [] ∧ (rest ≠ [] ∨ followed) then .error .emptyHost
  let (username, password) := readUserinfo (userinfo.getD [])
  let (hostText, afterHost) := splitHost false hostAndPort
  if k.isSpecial ∧ hostText = [] then .error .emptyHost
  let host ← if k.isSpecial then some <$> Host.read hostText else Host.readUninterpreted hostText
  if host.isNone ∧ afterHost ≠ [] then .error .emptyHost
  let (port, afterPort) ← readPort k afterHost
  let hasUserinfo := !(username.isEmpty && password.isEmpty)
  if host.isNone ∧ hasUserinfo then .error .emptyHost
  return (⟨username, password, host, port⟩, pathAfterAuthority k (afterPort ++ rest))

/-- The path of a file; empty segments in front are dropped. -/
def filePath (cs : List Char) : Path :=
  match (segmentsOf .file cs).dropWhile List.isEmpty with
  | [] => .segments [[]]
  | ss => .segments ss

/-- The authority of a file. -/
def fileAuthority (host : Option Host) : Authority := ⟨[], [], host, none⟩

/-- Reads the host and the path of a file. -/
def readFile (cs : List Char) : Except Error (Authority × Path) :=
  let isSlash := SchemeKind.file.isSlash
  match cs with
  | a :: b :: rest =>
    if isSlash a && isSlash b then
      let hostText := rest.takeWhile (!isSlash ·)
      if hostText.isEmpty || isDrive hostText then .ok (fileAuthority none, filePath rest)
      else do
        let host ← Host.read hostText
        let host := if host = .domain "localhost".toList then none else some host
        return (fileAuthority host, filePath (rest.dropWhile (!isSlash ·)))
    else .ok (fileAuthority none, filePath cs)
  | cs => .ok (fileAuthority none, filePath cs)

/-- Reads what stands between the scheme and the query. -/
def readHierarchy (k : SchemeKind) (cs : List Char) (followed : Bool) :
    Except Error (Option Authority × Path) :=
  match k with
  | .file => (fun (a, p) => (some a, p)) <$> readFile cs
  | .withPort _ =>
    (fun (a, p) => (some a, p)) <$> readAuthority k (cs.dropWhile k.isSlash) followed
  | .unknown =>
    match cs with
    | '/' :: '/' :: cs => (fun (a, p) => (some a, p)) <$> readAuthority k cs followed
    | '/' :: cs => .ok (none, .segments (segmentsOf k cs))
    | cs => .ok (none, .plain (encoded isControl cs))

/-- The text without control characters and blanks at its ends, and without tabs and line ends. -/
def stripped (cs : List Char) : List Char :=
  let isEdge (c : Char) : Bool := c.toNat ≤ 0x20
  let cs := ((cs.dropWhile isEdge).reverse.dropWhile isEdge).reverse
  cs.filter fun c => !(c == '\t' || c == '\n' || c == '\r')

/-- Reads a URL. -/
def ofString (s : String) : Except Error Url := do
  match splitScheme? (stripped s.toList) with
  | none => .error .relative
  | some (scheme, rest) =>
    let k := SchemeKind.of scheme
    let (rest, fragment) := splitMark '#' rest
    let (rest, query) := splitMark '?' rest
    let (authority, path) ← readHierarchy k rest (query.isSome || fragment.isSome)
    let inQueryOf := if k.isSpecial then inSpecialQuery else inQuery
    return ⟨scheme, authority, path, query.map (encoded inQueryOf),
      fragment.map (encoded inFragment)⟩

end Url

end Geocoding

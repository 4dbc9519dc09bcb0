import PodProbe.Url

/-!
This module contains the reading of URLs. Texts are read leniently: blanks at the ends, tabs and line feeds do not
count, some schemes take a backslash for a slash and any number of slashes before the host, and what a part must not
show is percent-encoded.
-/

namespace PodProbe.Url

inductive SchemeKind where
  | file
  | special
  | unknown
deriving DecidableEq, Repr

def kindOfScheme (scheme : String) : SchemeKind :=
  if scheme = "file" then .file
  else if ["http", "https", "ws", "wss", "ftp"].contains scheme then .special
  else .unknown

def defaultPort? (scheme : String) : Option UInt16 :=
  [("http", 80), ("https", 443), ("ws", 80), ("wss", 443), ("ftp", 21)].lookup scheme

def isSlash (kind : SchemeKind) (c : Char) : Bool :=
  c == '/' || (c == '\\' && kind != .unknown)

def endsAuthority (kind : SchemeKind) (c : Char) : Bool :=
  isSlash kind c || c == '?' || c == '#'

/-! ### Scheme -/

def significant (cs : List Char) : List Char :=
  let isEdge (c : Char) : Bool := c.toNat ≤ 0x20
  let trimmed := ((cs.dropWhile isEdge).reverse.dropWhile isEdge).reverse
  trimmed.filter fun c => c != '\t' && c != '\n' && c != '\r'

def splitScheme? (cs : List Char) : Option (String × List Char) :=
  let isSchemeChar (c : Char) : Bool := c.isAlphanum || ['+', '-', '.'].contains c
  match cs.takeWhile isSchemeChar, cs.dropWhile isSchemeChar with
  | c :: name, ':' :: rest =>
    if c.isAlpha then some (String.ofList ((c :: name).map Char.toLower), rest) else none
  | _, _ => none

/-! ### User, host and port -/

def splitUser? (cs : List Char) : Option (List Char × List Char) :=
  match cs.reverse.span (· != '@') with
  | (after, _ :: before) => some (before.reverse, after.reverse)
  | _ => none

def readCredentials (cs : List Char) : String × String :=
  let encode (cs : List Char) : String := String.ofList (percentEncode userSet cs)
  (encode (cs.takeWhile (· != ':')), encode ((cs.dropWhile (· != ':')).drop 1))

/-- The host up to a colon that is not between brackets, and the rest. -/
def splitHostPart (inside : Bool) : List Char → List Char × List Char
  | [] => ([], [])
  | c :: cs =>
    if c = ':' ∧ !inside then ([], c :: cs)
    else
      let (host, rest) := splitHostPart (if c = '[' then true else if c = ']' then false else inside) cs
      (c :: host, rest)

/-- Reads the digits of a port; they may be missing, and the port that the scheme stands for is not kept. -/
def readPort (scheme : String) (digits : List Char) : Except Refusal (Option UInt16) :=
  match readDigits? 10 digits with
  | some n =>
    if 65535 < n then .error .port
    else if digits.isEmpty ∨ defaultPort? scheme = some (UInt16.ofNat n) then .ok none
    else .ok (some (UInt16.ofNat n))
  | none => .error .port

/-- Reads host and port. A backslash after the port belongs to the path, whatever the scheme. -/
def readHostPort (scheme : String) (kind : SchemeKind) (cs : List Char) :
    Except Refusal (Option Host × Option UInt16 × List Char) := do
  let (name, rest) := splitHostPart false cs
  let host ← if kind = .special then
      (if name.isEmpty then .error .emptyHost else (Host.read name).map some)
    else Host.readUnknown? name
  match rest with
  | [] => return (host, none, [])
  | _ :: rest =>
    let (digits, rest) := rest.span Char.isDigit
    if host.isNone then .error .emptyHost
    else if rest.head?.any (· != '\\') then .error .port
    else return (host, ← readPort scheme digits, rest)

def readAuthority (scheme : String) (kind : SchemeKind) (last : Bool) (cs : List Char) :
    Except Refusal (Authority × List Char) := do
  match splitUser? cs with
  | none =>
    let (host, port, rest) ← readHostPort scheme kind cs
    return ({ host, port }, rest)
  | some (before, after) =>
    let (user, password) := readCredentials before
    if before.isEmpty && after.isEmpty && !last then .error .emptyHost
    else
      let (host, port, rest) ← readHostPort scheme kind after
      if host.isNone && !(user.isEmpty && password.isEmpty) then .error .emptyHost
      else return ({ user, password, host, port }, rest)

/-! ### Path, query and fragment -/

def splitSegments (kind : SchemeKind) (cs : List Char) : List (List Char) :=
  (cs.map fun c => if isSlash kind c then '/' else c).splitOn '/'

def isSingleDot (cs : List Char) : Bool :=
  cs == ['.'] || cs.map Char.toLower == ['%', '2', 'e']

def isDoubleDot (cs : List Char) : Bool :=
  let dot := ['.']
  let escaped := ['%', '2', 'e']
  [dot ++ dot, dot ++ escaped, escaped ++ dot, escaped ++ escaped].contains (cs.map Char.toLower)

def isDrive : List Char → Bool
  | [a, b] => a.isAlpha && (b == ':' || b == '|')
  | _ => false

/-- Goes up one segment; a drive is not left. -/
def goUp (done : List (List Char)) : List (List Char) :=
  if done.getLast?.any isDrive then done else done.dropLast

def resolveDots (done : List (List Char)) : List (List Char) → List (List Char)
  | [] => done
  | s :: rest =>
    if isDoubleDot s then
      (if rest.isEmpty then goUp done ++ [[]] else resolveDots (goUp done) rest)
    else if isSingleDot s then
      (if rest.isEmpty then done ++ [[]] else resolveDots done rest)
    else resolveDots (done ++ [s]) rest

def readSegments (kind : SchemeKind) (cs : List Char) : List String :=
  (resolveDots [] ((splitSegments kind cs).map (percentEncode pathSet))).map String.ofList

def splitPath (cs : List Char) : List Char × List Char :=
  cs.span fun c => c != '?' && c != '#'

def readTail (kind : SchemeKind) (cs : List Char) : Option String × Option String :=
  let fragment (cs : List Char) : Option String :=
    match cs with
    | [] => none
    | _ :: cs => some (String.ofList (percentEncode fragmentSet cs))
  match cs with
  | '?' :: cs =>
    let (query, rest) := cs.span (· != '#')
    let set := if kind = .unknown then querySet else specialQuerySet
    (some (String.ofList (percentEncode set query)), fragment rest)
  | cs => (none, fragment cs)

/-- Reads the path after an authority. A path that is missing is the root where the scheme is known. -/
def readRootedPath (kind : SchemeKind) (cs : List Char) : UrlPath :=
  match cs with
  | [] => .rooted (if kind = .unknown then [] else [""])
  | c :: rest => .rooted (readSegments kind (if isSlash kind c then rest else c :: rest))

def finish (scheme : String) (kind : SchemeKind) (authority : Option Authority) (path : List Char → UrlPath)
    (cs : List Char) : Url :=
  let (before, rest) := splitPath cs
  let (query, fragment) := readTail kind rest
  { scheme, authority, path := path before, query, fragment }

/-! ### Whole URLs -/

def readPlaced (scheme : String) (kind : SchemeKind) (cs : List Char) : Except Refusal Url := do
  let (before, rest) := cs.span fun c => !endsAuthority kind c
  let (authority, cut) ← readAuthority scheme kind rest.isEmpty before
  return finish scheme kind (some authority) (readRootedPath kind) (cut ++ rest)

/-- The empty segments at the start of the path of a file do not count. -/
def dropEmptySegments : List String → List String
  | "" :: s :: segments => dropEmptySegments (s :: segments)
  | segments => segments

def writeDrive (segments : List String) : List String :=
  match segments with
  | s :: rest => (if isDrive s.toList then String.ofList (s.toList.take 1 ++ [':']) else s) :: rest
  | [] => []

def readFilePath (cs : List Char) : UrlPath :=
  match readRootedPath .file cs with
  | .rooted segments => .rooted (writeDrive (dropEmptySegments segments))
  | path => path

/-- The host of a file; the machine itself is not named. -/
def readFileHost (cs : List Char) : Except Refusal (Option Host) :=
  if cs.isEmpty then .ok none
  else do
    let host ← Host.read cs
    return if host = .name "localhost" then none else some host

def startsWithDrive : UrlPath → Bool
  | .rooted (s :: _) => isDrive s.toList
  | _ => false

/-- Reads the URL of a file. Where the path starts with a drive there is no host. -/
def readFile (cs : List Char) : Except Refusal Url := do
  match cs with
  | a :: b :: rest =>
    if isSlash .file a && isSlash .file b then
      let (name, path) := rest.span fun c => !endsAuthority .file c
      if isDrive name then return finish "file" .file (some { host := none }) readFilePath rest
      else
        let host ← readFileHost name
        let u := finish "file" .file (some { host }) readFilePath path
        return if startsWithDrive u.path then { u with authority := some { host := none } } else u
    else return finish "file" .file (some { host := none }) readFilePath cs
  | cs => return finish "file" .file (some { host := none }) readFilePath cs

def readUnknown (scheme : String) (cs : List Char) : Except Refusal Url :=
  match cs with
  | '/' :: '/' :: rest => readPlaced scheme .unknown rest
  | '/' :: _ => .ok (finish scheme .unknown none (readRootedPath .unknown) cs)
  | cs => .ok (finish scheme .unknown none (fun cs => .plain (String.ofList (percentEncode isControl cs))) cs)

def read (s : String) : Except Refusal Url :=
  match splitScheme? (significant s.toList) with
  | none => .error .relative
  | some (scheme, rest) =>
    match kindOfScheme scheme with
    | .file => readFile rest
    | .special => readPlaced scheme .special (rest.dropWhile (isSlash .special))
    | .unknown => readUnknown scheme rest

def splitHost? (s : String) : Option (String × String) :=
  match read s with
  | .error _ => none
  | .ok u => u.host?.map fun host =>
    let (name, rest) := host.text.toList.span (· != '.')
    (String.ofList name, String.ofList rest)

end PodProbe.Url

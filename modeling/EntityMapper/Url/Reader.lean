import EntityMapper.Url.Basic
import EntityMapper.Url.Host

/-!
# Reading URLs

Controls and spaces around a URL do not count, nor do tabs and line ends inside it. A URL begins
with a scheme; behind it stands either an authority and a path, or a path that begins at the root,
or any other text. The schemes of the web always have an authority, take a backslash for a slash,
and leave out the port that goes without saying.
-/

namespace EntityMapper.Url

/-! ## Schemes -/

/-- What a scheme says about the rest of the URL. -/
inductive Family where
  /-- A scheme of the web with its usual port. -/
  | web (port : UInt16)
  | file
  | other
deriving DecidableEq, Repr

def Family.ofScheme (scheme : String) : Family :=
  match scheme with
  | "http" => .web 80
  | "ws" => .web 80
  | "https" => .web 443
  | "wss" => .web 443
  | "ftp" => .web 21
  | "file" => .file
  | _ => .other

def Family.foldsBackslash : Family → Bool
  | .other => false
  | _ => true

def isSchemeChar (c : Char) : Bool := c.isAlphanum || c == '+' || c == '-' || c == '.'

def scheme? (s : List Char) : Option (List Char × List Char) :=
  let scheme := s.takeWhile isSchemeChar
  match s.dropWhile isSchemeChar with
  | ':' :: rest =>
    if (scheme.head?.map Char.isAlpha).getD false
      then some (scheme.map Char.toLower, rest) else none
  | _ => none

/-! ## Authorities -/

def endsAuthority (family : Family) (c : Char) : Bool :=
  c == '/' || c == '?' || c == '#' || (c == '\\' && family.foldsBackslash)

/-- A text around the last occurrence of a character. -/
def aroundLast? (separator : Char) (s : List Char) : Option (List Char × List Char) :=
  match s.reverse.dropWhile (· != separator) with
  | [] => none
  | _ :: before => some (before.reverse, (s.reverse.takeWhile (· != separator)).reverse)

/-- User name and password of what stands before the at sign. An empty password is none. -/
def user (s : List Char) : List Char × Option (List Char) :=
  let username := encode isUserEncoded (s.takeWhile (· != ':'))
  match (s.dropWhile (· != ':')).drop 1 with
  | [] => (username, none)
  | password => (username, some (encode isUserEncoded password))

/-- The length of the host that a text begins with. Colons between brackets belong to it. -/
def hostLength (family : Family) (inBrackets : Bool) : List Char → Nat
  | [] => 0
  | c :: rest =>
    if (c == ':' && !inBrackets) || endsAuthority family c then 0
    else
      let inBrackets := if c == '[' then true else if c == ']' then false else inBrackets
      hostLength family inBrackets rest + 1

/-- The port after its colon, and what follows it. Without digits there is none. -/
def readPort (s : List Char) : Except Fault (Option UInt16 × List Char) :=
  let digits := s.takeWhile Char.isDigit
  let rest := s.dropWhile Char.isDigit
  let n := digits.foldl (fun n c => n * 10 + (c.toNat - '0'.toNat)) 0
  let ends :=
    match rest.head? with
    | none => true
    | some c => c == '/' || c == '\\' || c == '?' || c == '#'
  if 65535 < n || !ends then .error .port
  else .ok (if digits.isEmpty then none else some (UInt16.ofNat n), rest)

def readHostAndPort (family : Family) (s : List Char) :
    Except Fault (List Char × Option UInt16 × List Char) := do
  let written := s.take (hostLength family false s)
  let rest := s.drop (hostLength family false s)
  let host ←
    match family with
    | .other => plainHost written
    | _ => if written.isEmpty then .error .emptyHost else webHost written
  if host.isEmpty && rest.head? == some ':' then throw .emptyHost
  match rest with
  | ':' :: rest =>
    let (port?, rest) ← readPort rest
    -- the usual port of a scheme goes without saying
    let port? :=
      match family with
      | .web usual => if port? == some usual then none else port?
      | _ => port?
    return (host, port?, rest)
  | rest => return (host, none, rest)

def readAuthority (family : Family) (s : List Char) : Except Fault (Authority × List Char) := do
  let region := s.takeWhile fun c => !endsAuthority family c
  let beyond := s.dropWhile fun c => !endsAuthority family c
  -- of several at signs the last one ends the user; the others are encoded
  let (written, s) :=
    match aroundLast? '@' region with
    | some (written, place) => (written, place ++ beyond)
    | none => ([], s)
  if written.isEmpty && region.head? == some '@'
    && (s.head?.map (endsAuthority family)).getD false then
    throw .emptyHost
  let (username, password?) := user written
  let (host, port?, rest) ← readHostAndPort family s
  -- a user and a password call for a host
  if host.isEmpty && !(username.isEmpty && password?.isNone) then throw .emptyHost
  return ({ username := String.ofList username
            password? := password?.map String.ofList
            host := String.ofList host
            port? }, rest)

/-! ## Path, query and fragment -/

/-- The path after an authority: nothing, or a path from the root. -/
def pathAfterAuthority (family : Family) (s : List Char) : List Char :=
  let s := if family.foldsBackslash then s.map fun c => if c == '\\' then '/' else c else s
  match s with
  | [] => if family.foldsBackslash then ['/'] else []
  | '/' :: rest => rootedPath rest
  | s => rootedPath s

def queryAndFragment (s : List Char) : Option String × Option String :=
  let fragmentOf (s : List Char) : Option String :=
    match s with
    | '#' :: rest => some (String.ofList (encode isFragmentEncoded rest))
    | _ => none
  match s with
  | '?' :: rest =>
    (some (String.ofList (encode isQueryEncoded (rest.takeWhile (· != '#')))),
      fragmentOf (rest.dropWhile (· != '#')))
  | s => (none, fragmentOf s)

def endsPath (c : Char) : Bool := c == '?' || c == '#'

def afterAuthority (family : Family) (scheme : List Char) (authority : Authority) (s : List Char) :
    Url :=
  let (query?, fragment?) := queryAndFragment (s.dropWhile fun c => !endsPath c)
  { scheme := String.ofList scheme
    authority? := some authority
    path := String.ofList (pathAfterAuthority family (s.takeWhile fun c => !endsPath c))
    query?
    fragment? }

/-- The URL without an authority: a path from the root, or any other text. -/
def withoutAuthority (scheme : List Char) (s : List Char) : Url :=
  let (query?, fragment?) := queryAndFragment (s.dropWhile fun c => !endsPath c)
  let path :=
    match s.takeWhile fun c => !endsPath c with
    | '/' :: rest => rootedPath rest
    | written => encode isOpaqueEncoded written
  { scheme := String.ofList scheme, authority? := none, path := String.ofList path,
    query?, fragment? }

/-- The authority of a file: a host without user, port and drive, which may be empty. -/
def readFileAuthority (s : List Char) : Except Fault (Authority × List Char) := do
  let written := s.takeWhile fun c => !endsAuthority .file c
  let rest := s.dropWhile fun c => !endsAuthority .file c
  if written.isEmpty || isDrive written then return ({ host := "" }, s)
  let host ← webHost written
  return ({ host := if host = "localhost".toList then "" else String.ofList host }, rest)

/-! ## Whole URLs -/

/-- Controls and spaces, which do not count around a URL. -/
def isOuter (c : Char) : Bool := c.toNat ≤ 0x20

def significant (s : List Char) : List Char :=
  let start := s.dropWhile isOuter
  ((start.reverse.dropWhile isOuter).reverse).filter fun c => !isDropped c

def isWebSlash (c : Char) : Bool := c == '/' || c == '\\'

def read (text : String) : Except Fault Url :=
  match scheme? (significant text.toList) with
  | none => .error .noScheme
  | some (scheme, rest) =>
    match Family.ofScheme (String.ofList scheme) with
    | .web port => do
      let (authority, rest) ← readAuthority (.web port) (rest.dropWhile isWebSlash)
      return afterAuthority (.web port) scheme authority rest
    | .file =>
      if (rest.take 2).all isWebSlash && 2 ≤ rest.length then do
        let (authority, rest) ← readFileAuthority (rest.drop 2)
        return afterAuthority .file scheme authority rest
      else .ok (afterAuthority .file scheme { host := "" } rest)
    | .other =>
      match rest with
      | '/' :: '/' :: rest => do
        let (authority, rest) ← readAuthority .other rest
        return afterAuthority .other scheme authority rest
      | rest => .ok (withoutAuthority scheme rest)

end EntityMapper.Url

import EntityMapper.Url.Percent

/-!
# URLs

A URL in its parts, each in the encoded form in which the text of the URL shows it, and that text.
The parts that can be set afterwards are encoded on the way in. User name, password and port make
sense only beside a host, and setting them without one fails.
-/

namespace EntityMapper

/-- Who and where, before the path of a URL. -/
structure Url.Authority where
  username : String := ""
  password? : Option String := none
  /-- The host; it may be empty. -/
  host : String
  port? : Option UInt16 := none
deriving DecidableEq, Repr

/-- A URL. -/
structure Url where
  /-- The scheme in lower case. -/
  scheme : String
  authority? : Option Url.Authority
  path : String
  query? : Option String := none
  fragment? : Option String := none
deriving DecidableEq, Repr

namespace Url

/-! ## Parts -/

/-- The host, unless there is none or an empty one. -/
def host? (url : Url) : Option String :=
  match url.authority? with
  | some a => if a.host.isEmpty then none else some a.host
  | none => none

/-- The user name; an absent one is empty. -/
def username (url : Url) : String := (url.authority?.map (·.username)).getD ""

def password? (url : Url) : Option String := url.authority?.bind (·.password?)

def port? (url : Url) : Option UInt16 := url.authority?.bind (·.port?)

def queryPairs (url : Url) : List (String × String) := formPairs (url.query?.getD "").toList

/-! ## Text -/

/-- User name and password with the sign that ends them, or nothing. -/
def Authority.userText (a : Authority) : String :=
  match a.password? with
  | some password => a.username ++ ":" ++ password ++ "@"
  | none => if a.username.isEmpty then "" else a.username ++ "@"

def Authority.text (a : Authority) : String :=
  let port :=
    match a.port? with
    | some n => s!":{n.toNat}"
    | none => ""
  "//" ++ a.userText ++ a.host ++ port

/-- The text of a URL. A path that begins with two slashes must not be taken for an authority. -/
def text (url : Url) : String :=
  let place :=
    match url.authority? with
    | some a => a.text
    | none => if url.path.toList.take 2 == ['/', '/'] then "/." else ""
  let query := (url.query?.map ("?" ++ ·)).getD ""
  let fragment := (url.fragment?.map ("#" ++ ·)).getD ""
  url.scheme ++ ":" ++ place ++ url.path ++ query ++ fragment

/-! ## Paths -/

def isDoubleDot (segment : List Char) : Bool :=
  let dots := String.ofList (segment.map Char.toLower)
  dots == ".." || dots == ".%2e" || dots == "%2e." || dots == "%2e%2e"

def isSingleDot (segment : List Char) : Bool :=
  let dots := String.ofList (segment.map Char.toLower)
  dots == "." || dots == "%2e"

/-- A drive, which no segment leads back above. -/
def isDrive : List Char → Bool
  | [letter, mark] => letter.isAlpha && (mark == ':' || mark == '|')
  | _ => false

/-- The segments above, given in reverse. -/
def above : List (List Char) → List (List Char)
  | [] => []
  | segment :: rest => if isDrive segment then segment :: rest else rest

/-- Segments with the dots taken out; `done` holds those before in reverse. The last segment is not
closed by a slash, so that dots in its place leave an empty one. -/
def withoutDots (done : List (List Char)) : List (List Char) → List (List Char)
  | [] => done.reverse
  | [last] =>
    if isDoubleDot last then ([] :: above done).reverse
    else if isSingleDot last then ([] :: done).reverse
    else (last :: done).reverse
  | segment :: rest =>
    if isDoubleDot segment then withoutDots (above done) rest
    else if isSingleDot segment then withoutDots done rest
    else withoutDots (segment :: done) rest

def rootedPath (s : List Char) : List Char :=
  let segments := (s.splitOn '/').map (encode isPathEncoded)
  '/' :: List.intercalate ['/'] (withoutDots [] segments)

/-! ## Setting parts -/

/-- Characters that a URL drops wherever they stand. -/
def isDropped (c : Char) : Bool := c == '\t' || c == '\n' || c == '\r'

/-- Changes the authority, which needs a host. -/
def modifyAuthority? (url : Url) (f : Authority → Authority) : Option Url :=
  match url.authority? with
  | some a => if a.host.isEmpty then none else some { url with authority? := some (f a) }
  | none => none

def setUsername? (url : Url) (username : String) : Option Url :=
  url.modifyAuthority? fun a =>
    { a with username := String.ofList (encode isUserEncoded username.toList) }

/-- Sets the password; an empty one is none. -/
def setPassword? (url : Url) (password : String) : Option Url :=
  url.modifyAuthority? fun a =>
    { a with
      password? :=
        if password.isEmpty then none
          else some (String.ofList (encode isUserEncoded password.toList)) }

def setPort? (url : Url) (port? : Option UInt16) : Option Url :=
  url.modifyAuthority? fun a => { a with port? }

def setPath (url : Url) (path : String) : Url :=
  let s := path.toList.filter fun c => !isDropped c
  { url with path := String.ofList (rootedPath s) }

def appendPairs (url : Url) (pairs : List (String × String)) : Url :=
  let old := (url.query?.getD "").toList
  let new := formOf pairs
  let separator := if old.isEmpty || pairs.isEmpty then [] else ['&']
  { url with query? := some (String.ofList (old ++ separator ++ new)) }

end Url

end EntityMapper

import EntityMapper.Connection.Basic
import EntityMapper.Url.Reader

/-!
# Connections as URLs

Settings are read from the URL of a database and written as one. Of a server's URL every part is
taken from the URL as it was understood. The path of a file is cut out of the text as it was given,
behind as many characters as the scheme has and the colon, and is written back without any encoding.

The schema and the encoding are parameters of the query when a URL is read, under either of two
names each. They are no part of the URL that is written, because they take effect only on an open
connection.
-/

namespace EntityMapper.Connection

def urlError (fault : Url.Fault) : Error := .configuration s!"Invalid database URL: {fault.message}"

def addParameter (c : Connection) (name value : String) : Connection :=
  if name == "search_path" || name == "schema" then { c with schema? := some value }
  else if name == "encoding" || name == "client_encoding" then { c with encoding? := some value }
  else { c with options := c.options.insert name value }

/-- The path of a file in the text of a URL with a scheme of `schemeLength` characters. -/
def filePath (schemeLength : Nat) (text : List Char) : List Char :=
  let place :=
    match text.drop (schemeLength + 1) with
    | '/' :: '/' :: rest => rest
    | place => place
  place.takeWhile (· != '?')

def ofFileUrl (url : Url) (text : String) : Except Error Connection :=
  let path := filePath url.scheme.length text.toList
  if path.isEmpty then .error (.configuration "Missing database path in SQLite URL")
  else .ok (sqlite (String.ofList path))

def ofServerUrl (url : Url) : Except Error Connection := do
  let host ←
    match url.host? with
    | some host => .ok host
    | none => .error (.configuration "Missing host in database URL")
  let database := String.ofList (url.path.toList.dropWhile (· == '/'))
  if database.isEmpty then throw (.configuration "Missing database name in URL")
  return { postgres host database with
    port? := url.port?
    username? := if url.username.isEmpty then none else some url.username
    password? := url.password? }

def ofUrl (text : String) : Except Error Connection := do
  let url ← (Url.read text).mapError urlError
  let settings ←
    match ← Backend.ofName url.scheme with
    | .sqlite => ofFileUrl url text
    | .postgres => ofServerUrl url
  return url.queryPairs.foldl (fun c (name, value) => c.addParameter name value) settings

/-- The value, or the error of a setting that a URL has no place for. -/
def setting (what : String) : Option Url → Except Error Url
  | some url => .ok url
  | none => .error (.configuration s!"Invalid {what} in connection config")

def fileUrl (c : Connection) : String :=
  let place := if c.database == ":memory:" then "sqlite::memory:" else "sqlite://" ++ c.database
  if c.options.isEmpty then place
  else place ++ "?" ++ String.ofList (Url.formOf c.options.entries)

def serverUrl (c : Connection) : Except Error Url := do
  let url ← (Url.read ("postgres://" ++ c.host?.getD "localhost")).mapError urlError
  let url ←
    match c.username? with
    | some username => setting "username" (url.setUsername? username)
    | none => .ok url
  let url ←
    match c.password? with
    | some password => setting "password" (url.setPassword? password)
    | none => .ok url
  let url ← setting "port" (url.setPort? c.port?)
  let url := url.setPath c.database
  return if c.options.isEmpty then url else url.appendPairs c.options.entries

def toUrl (c : Connection) : Except Error String := do
  match ← c.backend with
  | .sqlite => return c.fileUrl
  | .postgres => return (← c.serverUrl).text

end EntityMapper.Connection

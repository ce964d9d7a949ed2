import EntityMapper.Connection.Address
import EntityMapper.Yaml.Reader

/-!
# Environments

The connections of an application, each under the name of the environment that it serves. They are
written down as YAML, or given by a single URL in the variables of the process.

What a YAML text lacks takes its default, and what it has beyond the known settings is passed over.
Any scalar may stand where text is expected.
-/

namespace EntityMapper

/-- Connections by the name of their environment. -/
structure Environments where
  /-- The environment that counts when none is named. -/
  primary : String := "default"
  connections : Dict Connection := .empty

namespace Environments

instance : Inhabited Environments := ⟨{}⟩

def connection (e : Environments) (name : String) : Except Error Connection :=
  match e.connections.get? name with
  | some c => .ok c
  | none => .error (.missingConnection s!"No connection configured for environment '{name}'")

def primaryConnection (e : Environments) : Except Error Connection := e.connection e.primary

def withConnection (e : Environments) (name : String) (c : Connection) : Environments :=
  { e with connections := e.connections.insert name c }

def withPrimary (e : Environments) (name : String) : Environments := { e with primary := name }

/-! ## From the variables of the process -/

/-- The single environment that variables describe: the URL of its connection and its name. -/
def ofVariables (url? name? : Option String) : Except Error Environments := do
  let url ←
    match url? with
    | some url => .ok url
    | none => .error (.missingConnection "DATABASE_URL is not set")
  let name := name?.getD "default"
  let c ← Connection.ofUrl url
  return withConnection { primary := name } name c

/-! ## From YAML -/

/-- The value of a field, if the field is there. The outer `none` is a failure of the reader. -/
def field? {α : Type} (read? : Yaml → Option α) (name : String) (fields : List (String × Yaml)) :
    Option (Option α) :=
  match fields.lookup name with
  | some node => (read? node).map some
  | none => some none

def optional? {α : Type} (read? : Yaml → Option α) (name : String) (fields : List (String × Yaml)) :
    Option (Option α) :=
  (field? (Yaml.optional? read?) name fields).map Option.join

def port? (node : Yaml) : Option UInt16 := do
  let n ← node.unsigned?
  if n < UInt16.size then some (UInt16.ofNat n) else none

/-- The settings of a connection. Only the driver and the database have to be there. -/
def connectionOfYaml? (node : Yaml) : Option Connection := do
  let fields ← node.record? ["driver", "host", "port", "username", "password", "database", "schema",
    "encoding", "options"]
  return {
    driver := ← (← field? Yaml.text? "driver" fields)
    host? := ← optional? Yaml.text? "host" fields
    port? := ← optional? port? "port" fields
    username? := ← optional? Yaml.text? "username" fields
    password? := ← optional? Yaml.text? "password" fields
    database := ← (← field? Yaml.text? "database" fields)
    schema? := ← optional? Yaml.text? "schema" fields
    encoding? := ← optional? Yaml.text? "encoding" fields
    options := (← field? (Yaml.dict? Yaml.text?) "options" fields).getD .empty }

def ofNode? (node : Yaml) : Option Environments := do
  let fields ← node.record? ["default", "connections"]
  return {
    primary := (← field? Yaml.text? "default" fields).getD "default"
    connections := (← field? (Yaml.dict? connectionOfYaml?) "connections" fields).getD .empty }

def ofYaml (text : String) : Except Error Environments :=
  match Yaml.read? text >>= ofNode? with
  | some e => .ok e
  | none => .error (.configuration "The text describes no environments")

/-- The environments that a file describes; without contents there is no such file. -/
def ofFile (path : String) (contents? : Option String) : Except Error Environments :=
  match contents? with
  | some contents => ofYaml contents
  | none =>
    .error (.configuration s!"Failed to read {path}: No such file or directory (os error 2)")

end Environments

end EntityMapper

import EntityMapper.Backend
import EntityMapper.Dict

/-!
# Connections

The settings that lead to one database. They are only data here; opening the connection is the
business of the driver that they name.
-/

namespace EntityMapper

/-- The settings of a connection. -/
structure Connection where
  /-- The name under which the driver is registered. -/
  driver : String
  host? : Option String := none
  port? : Option UInt16 := none
  username? : Option String := none
  password? : Option String := none
  /-- The name of the database; for SQLite a path, or `:memory:`. -/
  database : String
  /-- Where tables are looked up once the connection is open. -/
  schema? : Option String := none
  /-- The character encoding once the connection is open. -/
  encoding? : Option String := none
  /-- What else is passed to the backend. -/
  options : Dict String := .empty

namespace Connection

def sqlite (database : String) : Connection := { driver := Backend.sqlite.name, database }

def postgres (host database : String) : Connection :=
  { driver := Backend.postgres.name, host? := some host, database }

def backend (c : Connection) : Except Error Backend := Backend.ofName c.driver

end Connection

end EntityMapper

import EntityMapper.Connection.Address
import EntityMapper.Driver.Basic
import EntityMapper.Text.Quoted

/-!
# Drivers that are not open

The driver of a backend before its connection is open: it knows its settings and turns down
everything that needs the database. Opening it writes the URL of the connection first, so settings
from which no URL can be made fail there; the database itself is out of reach of this module.
-/

namespace EntityMapper

/-- The driver of a backend before its connection is open. -/
structure Unopened where
  backend : Backend
  connection : Connection

namespace Unopened

def inMemory : Unopened := ⟨.sqlite, Connection.sqlite ":memory:"⟩

/-- What is answered wherever the database would be needed. -/
def notConnected (d : Unopened) : Error :=
  .missingConnection s!"{d.backend.dialect.name} driver is not connected"

def refuse {α : Type} : Action Unopened α := Action.ofRun fun d => (.error d.notConnected, d)

instance : Driver Unopened where
  name d := d.backend.name
  dialect d := d.backend.dialect
  isConnected _ := false
  affected _ := 0
  connect := Action.ofRun fun d =>
    match d.connection.toUrl with
    | .error e => (.error e, d)
    | .ok _ => (.error d.notConnected, d)
  disconnect := pure ()
  execute _ := refuse
  mark _ := refuse
  listTables := refuse
  listColumns _ := refuse
  lastInsertId := refuse

/-- The settings in a message, as far as they name the database. -/
def summary (d : Unopened) : String :=
  let database := Text.quoted d.connection.database
  match d.backend with
  | .postgres =>
    let host := d.connection.host?.elim "None" fun h => s!"Some({Text.quoted h})"
    s!"PostgresDriver \x7b host: {host}, database: {database}, connected: false \x7d"
  | .sqlite => s!"SqliteDriver \x7b database: {database}, connected: false \x7d"

end Unopened

end EntityMapper

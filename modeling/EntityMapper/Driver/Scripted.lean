import EntityMapper.Driver.Basic

/-!
# Scripted drivers

A driver without a database, for tests and dry runs. It describes tables that were declared to it,
answers statements from a script, and keeps a log of what it was asked. Once the script is used up,
every statement succeeds without rows.
-/

namespace EntityMapper

/-- A driver that answers from a script. -/
structure Scripted where
  dialect : Dialect := .sqlite
  isConnected : Bool := false
  tables : List Table := []
  /-- The answers to the next statements. -/
  script : List (Except Error ResultSet) := []
  /-- The statements that were executed, in their order. -/
  log : List Statement := []
  affected : Nat := 0
  lastInsertId? : Option Value := none
  /-- How often the connection was opened. -/
  connects : Nat := 0
  /-- How often the tables were listed. -/
  tableListings : Nat := 0
  /-- How often the columns of some table were listed. -/
  columnListings : Nat := 0

namespace Scripted

instance : Inhabited Scripted := ⟨{}⟩

/-! ## Setting the scene -/

def dropTable (d : Scripted) (name : String) : Scripted :=
  { d with tables := d.tables.filter (·.name != name) }

/-- Adds a table behind the others; one of the same name is dropped. -/
def addTable (d : Scripted) (table : Table) : Scripted :=
  let d := d.dropTable table.name
  { d with tables := d.tables ++ [table] }

def push (d : Scripted) (answer : Except Error ResultSet) : Scripted :=
  { d with script := d.script ++ [answer] }

/-- Forgets what was asked so far. The script and what the answers left behind stay. -/
def clearLog (d : Scripted) : Scripted :=
  { d with log := [], connects := 0, tableListings := 0, columnListings := 0 }

/-! ## Answering -/

/-- Logs a statement and gives the next answer of the script. -/
def execute (statement : Statement) (d : Scripted) : Except Error ResultSet × Scripted :=
  let d := { d with log := d.log ++ [statement] }
  match d.script with
  -- an identifier that an earlier answer gave stays until another one takes its place
  | [] => (.ok {}, { d with affected := 0 })
  | .ok result :: script =>
    (.ok result, { d with
      script
      affected := result.affected
      lastInsertId? := result.lastInsertId.or d.lastInsertId? })
  | .error e :: script => (.error e, { d with script })

/-- The columns of a table; a table that was not declared has none. -/
def columnsOf (d : Scripted) (table : String) : List Column :=
  ((d.tables.find? (·.name == table)).map Table.columns).getD []

instance : Driver Scripted where
  name _ := "recording"
  dialect := Scripted.dialect
  isConnected := Scripted.isConnected
  affected := Scripted.affected
  connect := Action.change fun d => { d with isConnected := true, connects := d.connects + 1 }
  disconnect := Action.change fun d => { d with isConnected := false }
  execute statement := Action.ofRun (Scripted.execute statement)
  mark t := do let _ ← Action.ofRun (Scripted.execute (.raw t.token []))
  listTables := Action.ofRun fun d =>
    (.ok (d.tables.map Table.name), { d with tableListings := d.tableListings + 1 })
  listColumns table := Action.ofRun fun d =>
    (.ok (d.columnsOf table), { d with columnListings := d.columnListings + 1 })
  lastInsertId := Action.ask Scripted.lastInsertId?

end Scripted

end EntityMapper

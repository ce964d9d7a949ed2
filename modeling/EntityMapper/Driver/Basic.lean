import EntityMapper.Action
import EntityMapper.Dialect
import EntityMapper.Schema.Basic
import EntityMapper.Statement

/-!
# Drivers

A driver is what stands between the mapper and one database: a state with the few actions below. The
mapper knows no more of it, so whatever is shown for all drivers holds whichever database answers,
and however it answers.
-/

namespace EntityMapper

/-- The marks of a transaction. -/
inductive Transaction where
  | begin
  | commit
  | rollback
deriving DecidableEq, Repr

def Transaction.token : Transaction → String
  | .begin => "BEGIN"
  | .commit => "COMMIT"
  | .rollback => "ROLLBACK"

/-- A kind of connection to a database. -/
class Driver (δ : Type) where
  /-- The identifier under which drivers of this kind are registered. -/
  name : δ → String
  dialect : δ → Dialect
  isConnected : δ → Bool
  /-- The number of rows that the latest statement touched. -/
  affected : δ → Nat
  connect : Action δ Unit
  disconnect : Action δ Unit
  execute : Statement → Action δ ResultSet
  mark : Transaction → Action δ Unit
  listTables : Action δ (List String)
  /-- The columns of a table; of a table that is not there it may be none. -/
  listColumns : String → Action δ (List Column)
  /-- The identifier that the latest insert generated. -/
  lastInsertId : Action δ (Option Value)

namespace Driver

/-! ## Writes

An update or delete that restricts nothing would reach every row. It is refused, before anything is
executed, unless the caller says that this is meant. -/

/-- Refuses empty conditions, unless all rows are meant. -/
def guardConditions (operation table : String) (conditions : Condition) (everyRow : Bool) :
    Except Error Unit :=
  if conditions.isEmpty && !everyRow
    then .error (.unconditionalMutation operation table) else .ok ()

variable {δ : Type} [Driver δ]

def insert (table : String) (fields : Fields) : Action δ ResultSet := execute (.insert table fields)

/-- Sets fields on the rows under some conditions, and counts them. -/
def update (table : String) (conditions : Condition) (fields : Fields) (everyRow : Bool) :
    Action δ Nat := do
  Action.ofExcept (guardConditions "update" table conditions everyRow)
  let statement ← Action.ofExcept (Statement.ofUpdate table fields conditions)
  return (← execute statement).affected

/-- Deletes the rows under some conditions, and counts them. -/
def delete (table : String) (conditions : Condition) (everyRow : Bool) : Action δ Nat := do
  Action.ofExcept (guardConditions "delete" table conditions everyRow)
  return (← execute (.delete table conditions)).affected

end Driver

/-- A driver that is of either of two kinds. -/
instance {α β : Type} [Driver α] [Driver β] : Driver (α ⊕ β) :=
  let either {γ : Type} (left : Action α γ) (right : Action β γ) : Action (α ⊕ β) γ :=
    Action.ofRun fun
      | .inl d => let (result, d) := left.perform d; (result, .inl d)
      | .inr d => let (result, d) := right.perform d; (result, .inr d)
  { name := Sum.elim Driver.name Driver.name
    dialect := Sum.elim Driver.dialect Driver.dialect
    isConnected := Sum.elim Driver.isConnected Driver.isConnected
    affected := Sum.elim Driver.affected Driver.affected
    connect := either Driver.connect Driver.connect
    disconnect := either Driver.disconnect Driver.disconnect
    execute s := either (Driver.execute s) (Driver.execute s)
    mark t := either (Driver.mark t) (Driver.mark t)
    listTables := either Driver.listTables Driver.listTables
    listColumns t := either (Driver.listColumns t) (Driver.listColumns t)
    lastInsertId := either Driver.lastInsertId Driver.lastInsertId }

end EntityMapper

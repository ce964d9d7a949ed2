import EntityMapper.Driver.Basic

/-!
# Watched drivers

A driver with a list of all that it was asked and of what it answered. It is asked through the
actions that every driver has, and passes them on; so what is done with a driver of any kind can be
followed call by call, and is not changed by that.
-/

namespace EntityMapper

/-- A request to a driver, with its answer. -/
inductive Call where
  | connect (answer : Except Error Unit)
  | disconnect (answer : Except Error Unit)
  | execute (statement : Statement) (answer : Except Error ResultSet)
  | mark (t : Transaction) (answer : Except Error Unit)
  | listTables (answer : Except Error (List String))
  | listColumns (table : String) (answer : Except Error (List Column))
  | lastInsertId (answer : Except Error (Option Value))

/-- The statement that a call executes, if it executes one. -/
def Call.statement? : Call → Option Statement
  | .execute s _ => some s
  | _ => none

/-- A driver and the calls that were made to it, in their order. -/
structure Watched (δ : Type) where
  driver : δ
  calls : List Call := []

namespace Watched

variable {δ : Type} {α : Type}

/-- Passes an action on and writes the call down. -/
def watch (call : Except Error α → Call) (action : Action δ α) : Action (Watched δ) α :=
  Action.ofRun fun w =>
    let (result, driver) := action.perform w.driver
    (result, ⟨driver, w.calls ++ [call result]⟩)

instance [Driver δ] : Driver (Watched δ) where
  name w := Driver.name w.driver
  dialect w := Driver.dialect w.driver
  isConnected w := Driver.isConnected w.driver
  affected w := Driver.affected w.driver
  connect := watch .connect Driver.connect
  disconnect := watch .disconnect Driver.disconnect
  execute s := watch (.execute s) (Driver.execute s)
  mark t := watch (.mark t) (Driver.mark t)
  listTables := watch .listTables Driver.listTables
  listColumns table := watch (.listColumns table) (Driver.listColumns table)
  lastInsertId := watch .lastInsertId Driver.lastInsertId

end Watched

end EntityMapper

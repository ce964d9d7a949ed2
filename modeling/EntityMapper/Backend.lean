import EntityMapper.Dialect
import EntityMapper.Error
import EntityMapper.Text.Case

/-!
# Backends

The kinds of database that a connection may lead to, and the names that settings use for them.
-/

namespace EntityMapper

/-- A kind of database. -/
inductive Backend where
  | postgres
  | sqlite
deriving DecidableEq, Repr

namespace Backend

def name : Backend → String
  | .postgres => "postgres"
  | .sqlite => "sqlite"

def dialect : Backend → Dialect
  | .postgres => .postgres
  | .sqlite => .sqlite

/-- The backend that a name stands for, in any case. -/
def ofName (s : String) : Except Error Backend :=
  match Text.lowercase s with
  | "postgresql" => .ok .postgres
  | "postgres" => .ok .postgres
  | "pgsql" => .ok .postgres
  | "sqlite" => .ok .sqlite
  | "sqlite3" => .ok .sqlite
  | _ => .error (.missingDriver s)

end Backend

end EntityMapper

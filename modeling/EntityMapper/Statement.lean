import EntityMapper.Condition.Predicate
import EntityMapper.Query
import EntityMapper.Row

/-!
# Statements

What a driver is asked to execute. A statement keeps what it was made from, and is written as SQL
only where a driver takes it. Statements that could not be written are never made: a read needs a
table, an update something to set.
-/

namespace EntityMapper

/-- A statement. -/
inductive Statement where
  | select (table : String) (query : Query)
  /-- Counts the rows of a query, whatever its select list, order and bounds. -/
  | count (table : String) (query : Query)
  | insert (table : String) (fields : Fields)
  | update (table : String) (fields : Fields) (conditions : Condition)
  | delete (table : String) (conditions : Condition)
  /-- Ready-made SQL. -/
  | raw (sql : String) (values : List Value)

namespace Statement

/-! ## Making statements -/

/-- The table of a query, which a read cannot do without. -/
def tableOf (q : Query) : Except Error String :=
  match q.table? with
  | some table => .ok table
  | none => .error (.query "Query descriptor has no table")

def ofSelect (q : Query) : Except Error Statement := do return .select (← tableOf q) q

def ofCount (q : Query) : Except Error Statement := do return .count (← tableOf q) q

def ofUpdate (table : String) (fields : Fields) (conditions : Condition) : Except Error Statement :=
  if fields.isEmpty then .error (.query s!"Update of '{table}' has no fields to set")
  else .ok (.update table fields conditions)

/-! ## Clauses -/

/-- A joined table; without pairs of columns there is no `ON`. -/
def joinClause (j : Join) : Sql :=
  let pairs := j.on.map fun (left, right) => Sql.plain s!"{left} = {right}"
  .text s!" {j.kind.token} {j.table}" :: if pairs.isEmpty then []
    else .text " ON " :: Sql.joined " AND " pairs

def listClause (keyword : String) (items : List String) : Sql :=
  if items.isEmpty then [] else .text s!" {keyword} " :: Sql.joined ", " (items.map Sql.plain)

def boundClause (keyword : String) (bound? : Option Nat) : Sql :=
  match bound? with
  | none => []
  | some n => [.text s!" {keyword} {n}"]

/-- Joins, conditions and groups, which a read and a count have in common. -/
def sourceClauses (q : Query) : Sql :=
  q.joins.flatMap joinClause ++ q.conditions.clause "WHERE" ++ listClause "GROUP BY" q.groups
    ++ q.having.clause "HAVING"

def windowClauses (q : Query) : Sql :=
  listClause "ORDER BY" (q.order.map fun (column, direction) => s!"{column} {direction.token}")
    ++ boundClause "LIMIT" q.limit? ++ boundClause "OFFSET" q.offset?

def selectList (q : Query) : Sql :=
  if q.columns.isEmpty then Sql.plain "*" else Sql.joined ", " (q.columns.map Sql.plain)

/-- The place of a written value. Null is written out and not bound, so that the backend takes its
type from the column. -/
def valueSlot (v : Value) : Sql := if v.isNull then Sql.plain "NULL" else [.slot v]

/-! ## Writing SQL -/

def sql : Statement → Sql
  | .select table q =>
    .text (if q.isDistinct then "SELECT DISTINCT " else "SELECT ") :: selectList q
      ++ .text s!" FROM {table}" :: sourceClauses q ++ windowClauses q
  | .count table q => .text s!"SELECT COUNT(*) AS count FROM {table}" :: sourceClauses q
  | .insert table fields =>
    if fields.isEmpty then Sql.plain s!"INSERT INTO {table} DEFAULT VALUES"
    else
      .text s!"INSERT INTO {table} (" :: Sql.joined ", " (fields.keys.map Sql.plain)
        ++ .text ") VALUES (" :: Sql.joined ", " (fields.entries.map fun (_, v) => valueSlot v)
        ++ [.text ")"]
  | .update table fields conditions =>
    .text s!"UPDATE {table} SET "
      :: Sql.joined ", "
        (fields.entries.map fun (column, v) => .text s!"{column} = " :: valueSlot v)
      ++ conditions.clause "WHERE"
  | .delete table conditions => .text s!"DELETE FROM {table}" :: conditions.clause "WHERE"
  | .raw sql values => [.raw sql values]

/-- The text of a statement, with a question mark for each placeholder. -/
def text (s : Statement) : String := s.sql.text

/-- The values bound to a statement, in the order of their placeholders. -/
def bindings (s : Statement) : List Value := s.sql.bindings

end Statement

end EntityMapper

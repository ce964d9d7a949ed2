import EntityMapper.Condition.OfJson

/-!
# Queries

The description of a read: where from, which columns, under which conditions, in which order and how
many. A query is built step by step; steps that add to a list append, all others replace.
-/

namespace EntityMapper

/-- How a joined table takes part. -/
inductive JoinKind where
  | inner
  | left
  | right
deriving DecidableEq, Repr

def JoinKind.token : JoinKind → String
  | .inner => "INNER JOIN"
  | .left => "LEFT JOIN"
  | .right => "RIGHT JOIN"

/-- A joined table and the pairs of columns that have to be equal. -/
structure Join where
  kind : JoinKind
  table : String
  on : List (String × String)
deriving DecidableEq, Repr

/-- The direction of an order. -/
inductive Direction where
  | ascending
  | descending
deriving DecidableEq, Repr

def Direction.token : Direction → String
  | .ascending => "ASC"
  | .descending => "DESC"

/-- The description of a read. -/
structure Query where
  table? : Option String := none
  /-- The select list; if it is empty, all columns are read. -/
  columns : List String := []
  isDistinct : Bool := false
  conditions : Condition := .empty
  joins : List Join := []
  groups : List String := []
  having : Condition := .empty
  order : List (String × Direction) := []
  limit? : Option Nat := none
  offset? : Option Nat := none
deriving Repr

namespace Query

instance : Inhabited Query := ⟨{}⟩

def ofTable (table : String) : Query := { table? := some table }

def withTable (q : Query) (table : String) : Query := { q with table? := some table }

def select (q : Query) (columns : List String) : Query := { q with columns }

def distinct (q : Query) : Query := { q with isDistinct := true }

def withConditions (q : Query) (conditions : Condition) : Query := { q with conditions }

def andWhere (q : Query) (condition : Condition) : Query :=
  { q with conditions := q.conditions.andAlso condition }

def filter (q : Query) (json : Json) : Except Error Query :=
  (Condition.ofJson json).map q.withConditions

def join (q : Query) (j : Join) : Query := { q with joins := q.joins ++ [j] }

def joinOn (q : Query) (kind : JoinKind) (table left right : String) : Query :=
  q.join ⟨kind, table, [(left, right)]⟩

def groupBy (q : Query) (column : String) : Query := { q with groups := q.groups ++ [column] }

def withHaving (q : Query) (having : Condition) : Query := { q with having }

def orderBy (q : Query) (column : String) (direction : Direction) : Query :=
  { q with order := q.order ++ [(column, direction)] }

def withLimit (q : Query) (n : Nat) : Query := { q with limit? := some n }

def withOffset (q : Query) (n : Nat) : Query := { q with offset? := some n }

end Query

end EntityMapper

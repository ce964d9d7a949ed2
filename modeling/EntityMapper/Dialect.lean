/-!
# Dialects

The SQL dialects of the two backends, as far as they differ here: in the form of a placeholder. SQL
is written with question marks, and `prepare` turns those outside quotes into the placeholders of
the dialect. Comments and dollar quotes are not recognised.
-/

namespace EntityMapper

/-- An SQL dialect. -/
inductive Dialect where
  | postgres
  | sqlite
deriving DecidableEq, Repr

namespace Dialect

/-- The name of a dialect, which is that of the database that speaks it. -/
def name : Dialect → String
  | .postgres => "PostgreSQL"
  | .sqlite => "SQLite"

/-- The placeholder of the value at this position, counted from zero. -/
def placeholder (index : Nat) : Dialect → String
  | .postgres => s!"${index + 1}"
  | .sqlite => "?"

/-- Numbers the question marks outside quotes; `quote` is the quote that is open, and `index` of
them have been met. A quote is closed by the same character only. -/
def numbered (quote : Option Char) (index : Nat) : List Char → List Char
  | [] => []
  | c :: rest =>
    match quote with
    | some q => c :: numbered (if c == q then none else some q) index rest
    | none =>
      if c == '\'' || c == '"' then c :: numbered (some c) index rest
      else if c == '?' then (placeholder index .postgres).toList ++ numbered none (index + 1) rest
      else c :: numbered none index rest

/-- SQL as the dialect takes it. Without any question mark it is passed on unread. -/
def prepare (sql : String) : Dialect → String
  | .postgres => if '?' ∈ sql.toList then String.ofList (numbered none 0 sql.toList) else sql
  | .sqlite => sql

end Dialect

end EntityMapper

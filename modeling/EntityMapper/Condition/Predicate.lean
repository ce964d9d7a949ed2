import EntityMapper.Condition.Basic
import EntityMapper.Sql

/-!
# Conditions as predicates

The predicate of a condition, for a `WHERE` or `HAVING` clause. Parts that restrict nothing leave no
trace. An unwritten conjunction puts parentheses only around parts that need them; a group with a
connective puts them around each of its parts, and a negation around the whole of them.
-/

namespace EntityMapper

/-- A predicate under construction. -/
structure Fragment where
  sql : Sql
  /-- Whether it has to stand in parentheses beside an `AND`. -/
  compound : Bool
deriving Repr

namespace Fragment

/-- The fragment as a part of an unwritten conjunction. -/
def guarded (f : Fragment) : Sql := if f.compound then f.sql.parenthesised else f.sql

/-- The unwritten conjunction of fragments. A single one stays as it is. -/
def conjunction? : List Fragment → Option Fragment
  | [] => none
  | [f] => some f
  | fragments => some ⟨Sql.joined " AND " (fragments.map guarded), true⟩

def between (connective : Connective) (fragments : List Fragment) : Sql :=
  Sql.joined s!" {connective.token} " (fragments.map fun f => f.sql.parenthesised)

def negation (fragments : List Fragment) : Fragment :=
  let inner :=
    match fragments with
    | [f] => f.sql
    | fragments => between .and fragments
  ⟨.text "NOT (" :: inner ++ [.text ")"], false⟩

/-- The group of fragments under a connective; without fragments there is no group. -/
def group? (connective : Connective) (fragments : List Fragment) : Option Fragment :=
  if fragments.isEmpty then none
  else
    match connective with
    | .not => some (negation fragments)
    | connective => some ⟨between connective fragments, true⟩

/-- One comparison. An empty list matches nothing. Null is tested for, and not compared with, by the
operators that can be put that way. -/
def comparison (field : String) (c : Comparison) : Operand → Fragment
  | .oneOf [] => ⟨Sql.plain "1 = 0", false⟩
  | .oneOf values =>
    ⟨.text s!"{field} IN (" :: Sql.joined ", " (values.map fun v => [.slot v])
      ++ [.text ")"], false⟩
  | .scalar value =>
    -- a null that is tested for is not bound
    if value.isNull && c == .equal then ⟨Sql.plain s!"{field} IS NULL", false⟩
    else if value.isNull && c.isInequality then ⟨Sql.plain s!"{field} IS NOT NULL", false⟩
    else ⟨[.text s!"{field} {c.token} ", .slot value], false⟩

end Fragment

namespace Condition

mutual

/-- The fragment of a condition, unless the condition restricts nothing. -/
def fragment? : Condition → Option Fragment
  | .all children => Fragment.conjunction? (fragments children)
  | .group connective children => Fragment.group? connective (fragments children)
  | .compare field c operand => some (Fragment.comparison field c operand)
  | .raw sql values =>
    if Text.isBlankText sql then none else some ⟨[.raw (Text.trimmed sql) values], true⟩

def fragments : List Condition → List Fragment
  | [] => []
  | c :: rest => (fragment? c).toList ++ fragments rest

end

/-- The predicate of a condition; that of an empty condition has no pieces. -/
def predicate (c : Condition) : Sql := (c.fragment?.map Fragment.sql).getD []

/-- A keyword and the predicate, or nothing for an empty condition. -/
def clause (keyword : String) (c : Condition) : Sql :=
  match c.fragment? with
  | none => []
  | some f => .text s!" {keyword} " :: f.sql

end Condition

end EntityMapper

import EntityMapper.Condition.OfJson

/-!
# Criteria

How a caller says which rows are meant: by a condition, or by a document that has to be read as one
first.
-/

namespace EntityMapper

/-- Which rows are meant. -/
inductive Criteria where
  | condition (c : Condition)
  | document (json : Json)

def Criteria.read : Criteria → Except Error Condition
  | .condition c => .ok c
  | .document json => Condition.ofJson json

end EntityMapper

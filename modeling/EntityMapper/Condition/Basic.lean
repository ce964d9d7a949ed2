import EntityMapper.Condition.FieldToken
import EntityMapper.Value.Basic

/-!
# Conditions

What rows a statement is about. A condition is a tree: comparisons and ready-made SQL at the leaves,
groups above them. A group without a connective is a conjunction that was never written as one, such
as the entries of a map. Parts that say nothing (empty groups, blank SQL) may stand anywhere; a
condition made of nothing else is empty and restricts nothing.
-/

namespace EntityMapper

/-- What a column is compared with. -/
inductive Operand where
  | scalar (value : Value)
  /-- Any of these; the comparison that goes with it does not matter. -/
  | oneOf (values : List Value)
deriving Repr

/-- A tree of conditions. -/
inductive Condition where
  /-- The unwritten conjunction. -/
  | all (children : List Condition)
  | group (connective : Connective) (children : List Condition)
  | compare (field : String) (comparison : Comparison) (operand : Operand)
  /-- Ready-made SQL with the values for its placeholders. -/
  | raw (sql : String) (values : List Value)
deriving Repr

namespace Condition

def empty : Condition := .all []

instance : Inhabited Condition := ⟨empty⟩

def equals (field : String) (value : Value) : Condition := .compare field .equal (.scalar value)

def among (field : String) (values : List Value) : Condition :=
  .compare field .equal (.oneOf values)

def negation (child : Condition) : Condition := .group .not [child]

/-- A comparison whose column and operator are written as a field token. -/
def ofToken (token : String) (operand : Operand) : Except Error Condition :=
  (FieldToken.ofText token).map fun t => .compare t.field t.comparison operand

mutual

def isEmpty : Condition → Bool
  | .all children => areEmpty children
  | .group _ children => areEmpty children
  | .compare _ _ _ => false
  | .raw sql _ => Text.isBlankText sql

def areEmpty : List Condition → Bool
  | [] => true
  | c :: rest => isEmpty c && areEmpty rest

end

/-- The parts of an unwritten conjunction; any other condition is its own only part. -/
def conjuncts : Condition → List Condition
  | .all children => children
  | c => [c]

/-- Both conditions. An empty one disappears, and two unwritten conjunctions become one. -/
def andAlso (a b : Condition) : Condition :=
  if b.isEmpty then a
  else if a.isEmpty then b
  else .all (a.conjuncts ++ b.conjuncts)

theorem areEmpty_eq_all (children : List Condition) :
    areEmpty children = children.all isEmpty := by
  induction children with
  | nil => rfl
  | cons c rest ih => simp [areEmpty, ih]

theorem isEmpty_andAlso (a b : Condition) : (a.andAlso b).isEmpty = (a.isEmpty && b.isEmpty) := by
  unfold andAlso
  split
  next hb => simp [hb]
  next hb =>
    split
    next ha => simp [ha]
    next ha =>
      -- taking an unwritten conjunction apart does not change whether it is empty
      have hconj : ∀ c : Condition, c.conjuncts.all isEmpty = c.isEmpty := by
        intro c; cases c <;> simp [conjuncts, isEmpty, areEmpty_eq_all]
      simp [isEmpty, areEmpty_eq_all, List.all_append, hconj]

end Condition

end EntityMapper

import EntityMapper.Condition.Predicate

/-!
# Empty conditions

A condition is empty by what it is made of, and has no predicate by what is written for it. The main
statement is that these come to the same, however groups, negations and blank pieces of SQL are
nested.

## Structure

* `Fragment.conjunction?_eq_none_iff`, `Fragment.group?_eq_none_iff` — the step: parts make up
  nothing just if there are none.
* `fragment?_eq_none_iff` — the induction, over trees and lists of trees at once.
* `clause_eq_nil_iff` — what statements need of it.
-/

namespace EntityMapper

/-- Fragments have an unwritten conjunction unless there are none. -/
theorem Fragment.conjunction?_eq_none_iff {fragments : List Fragment} :
    Fragment.conjunction? fragments = none ↔ fragments = [] := by
  match fragments with
  | [] => simp [Fragment.conjunction?]
  | [f] => simp [Fragment.conjunction?]
  | f :: g :: rest => simp [Fragment.conjunction?]

theorem Fragment.group?_eq_none_iff {connective : Connective} {fragments : List Fragment} :
    Fragment.group? connective fragments = none ↔ fragments = [] := by
  cases fragments with
  | nil => simp [Fragment.group?]
  | cons f rest => cases connective <;> simp [Fragment.group?]

namespace Condition

mutual

/-- **No predicate.** Nothing is written for a condition just when it is empty. -/
theorem fragment?_eq_none_iff : ∀ c : Condition, c.fragment? = none ↔ c.isEmpty = true
  -- a condition is left out by way of its children, so the two inductions go together
  | .all children => by
    rw [fragment?, Fragment.conjunction?_eq_none_iff, isEmpty]
    exact fragments_eq_nil_iff children
  | .group connective children => by
    rw [fragment?, Fragment.group?_eq_none_iff, isEmpty]
    exact fragments_eq_nil_iff children
  | .compare field c operand => by simp [fragment?, isEmpty]
  | .raw sql values => by simp [fragment?, isEmpty]

/-- Nothing is written for a list of conditions just when all of them are empty. -/
theorem fragments_eq_nil_iff :
    ∀ children : List Condition, fragments children = [] ↔ areEmpty children = true
  | [] => by simp [fragments, areEmpty]
  | c :: rest => by
    rw [fragments, areEmpty, List.append_eq_nil_iff, Option.toList_eq_nil_iff, Bool.and_eq_true,
      fragment?_eq_none_iff c, fragments_eq_nil_iff rest]

end

/-- A clause is left out just when its condition is empty. -/
theorem clause_eq_nil_iff {keyword : String} {c : Condition} :
    c.clause keyword = [] ↔ c.isEmpty = true := by
  rw [← fragment?_eq_none_iff c, clause]
  cases c.fragment? <;> simp

end Condition

end EntityMapper

import EntityMapper.Text.Blank
import EntityMapper.Text.Case

/-!
# Operators of conditions

Comparisons relate a column to a value, connectives join conditions. Both are recognised by their
SQL token, with blanks around it and words in any case.
-/

namespace EntityMapper

/-- How a column is compared. -/
inductive Comparison where
  | equal
  | notEqual
  /-- The other spelling of `notEqual`; it is kept as it was written. -/
  | bangEqual
  | atMost
  | less
  | atLeast
  | greater
  | nullSafeEqual
  | like
  | regexp
  | bitAnd
  | bitOr
  | bitXor
  | bitNot
  | shiftLeft
  | shiftRight
deriving DecidableEq, Repr

namespace Comparison

def token : Comparison → String
  | equal => "="
  | notEqual => "<>"
  | bangEqual => "!="
  | atMost => "<="
  | less => "<"
  | atLeast => ">="
  | greater => ">"
  | nullSafeEqual => "<=>"
  | like => "LIKE"
  | regexp => "REGEXP"
  | bitAnd => "&"
  | bitOr => "|"
  | bitXor => "^"
  | bitNot => "~"
  | shiftLeft => "<<"
  | shiftRight => ">>"

def all : List Comparison :=
  [equal, notEqual, bangEqual, atMost, less, atLeast, greater, nullSafeEqual, like, regexp, bitAnd,
    bitOr, bitXor, bitNot, shiftLeft, shiftRight]

def ofToken? (s : String) : Option Comparison :=
  all.find? fun c => c.token == Text.capitalised (Text.trim s.toList)

/-- The two spellings of inequality, which turn into `IS NOT NULL` before null. -/
def isInequality : Comparison → Bool
  | notEqual => true
  | bangEqual => true
  | _ => false

theorem mem_all (c : Comparison) : c ∈ all := by cases c <;> decide

end Comparison

/-- How conditions are joined. A negation joins its conditions by conjunction first. -/
inductive Connective where
  | and
  | or
  | xor
  | not
deriving DecidableEq, Repr

namespace Connective

def token : Connective → String
  | .and => "AND"
  | .or => "OR"
  | .xor => "XOR"
  | .not => "NOT"

def all : List Connective := [.and, .or, .xor, .not]

def ofKey? (s : String) : Option Connective :=
  all.find? fun c => c.token == Text.capitalised (Text.trim s.toList)

end Connective

end EntityMapper

import EntityMapper.Proofs.Condition.Conjunction
import EntityMapper.Proofs.Results
import EntityMapper.Proofs.Statement.Values

/-!
# Numbers in conditions

A document says nothing by its numbers but what fields are compared with; connectives, positions and
ready-made SQL have no use for them. So a condition binds just the numbers of its document, each as
the value that it stands for, and in the order in which they are written.

## Structure

* `Json.numbers` — the numbers of a document that fields are compared with, in their order. It is
  defined on documents alone, without reading them as conditions.
* `Condition.numbers` — the numbers that a condition binds.
* `numbers_ofDocument` — both agree, by induction over documents. The cases are those of reading,
  with a list of lemmas for the parts that may hold a number.
-/

namespace EntityMapper

namespace Json

mutual

/-- The numbers of a document, in the order in which they are written. -/
def numbers : Json → List Number
  | .num n => [n]
  | .arr items => numbersIn items
  | .obj members => numbersUnder members
  | .null => []
  | .bool _ => []
  | .str _ => []

/-- The numbers of the items of a list. -/
def numbersIn : List Json → List Number
  | [] => []
  | item :: rest => numbers item ++ numbersIn rest

/-- The numbers of the entries of a map, whose keys have none. -/
def numbersUnder : List (String × Json) → List Number
  | [] => []
  | (_, value) :: rest => numbers value ++ numbersUnder rest

end

end Json

namespace Value

/-- An integer or a double, and not one within a document. -/
def isNumber : Value → Bool
  | .int32 _ => true
  | .int64 _ => true
  | .float _ => true
  | _ => false

/-- The value that a number stands for. -/
def ofNumber (n : Json.Number) : Value := ofJson (.num n)

/-- A number becomes an integer, long or short, or a double. -/
theorem isNumber_ofNumber (n : Json.Number) : (ofNumber n).isNumber = true := by
  cases n with
  | real x => rfl
  | int n =>
    show (ofInt n).isNumber = true
    unfold ofInt
    split
    · rfl
    · split <;> rfl

theorem not_isNumber_of_isNull {v : Value} (h : v.isNull = true) : v.isNumber = false := by
  cases v with
  | null => rfl
  | _ => exact Bool.noConfusion h

end Value

namespace Condition

/-- The numbers that a condition binds. -/
def numbers (c : Condition) : List Value := c.predicate.bindings.filter Value.isNumber

/-! ## Trees

How the numbers of a condition come from its parts. Each lemma is the one for bindings, with all but
the numbers filtered out. -/

/-- The numbers of an unwritten conjunction are those of its parts (`bindings_all`). -/
theorem numbers_all (children : List Condition) :
    (all children).numbers = children.flatMap numbers := by
  rw [numbers, bindings_all, List.filter_flatMap]
  rfl

theorem numbers_group (connective : Connective) (children : List Condition) :
    (group connective children).numbers = children.flatMap numbers := by
  rw [numbers, bindings_group, List.filter_flatMap]
  rfl

/-- A null that is tested for is not bound, and is no number. -/
theorem numbers_compare_scalar (field : String) (comparison : Comparison) (v : Value) :
    (compare field comparison (.scalar v)).numbers = [v].filter Value.isNumber := by
  show (Fragment.comparison field comparison (.scalar v)).sql.bindings.filter Value.isNumber = _
  -- both tests for null are made of a null only
  have htested : v.isNull = true → [] = [v].filter Value.isNumber := by
    intro hnull
    simp [Value.not_isNumber_of_isNull hnull]
  rw [Fragment.comparison]
  split
  next h => exact htested (Bool.and_eq_true_iff.mp h).1
  next =>
    split
    next h => exact htested (Bool.and_eq_true_iff.mp h).1
    next => rfl

/-- A list of values is bound as it is. An empty one is written as `1 = 0`, which binds nothing. -/
theorem numbers_compare_oneOf (field : String) (comparison : Comparison) (values : List Value) :
    (compare field comparison (.oneOf values)).numbers = values.filter Value.isNumber := by
  have hbindings : (Fragment.comparison field comparison (.oneOf values)).sql.bindings =
      values := by
    cases values with
    | nil => rfl
    | cons v rest =>
      -- a placeholder for each value, with nothing bound between them
      have hslots : (Sql.joined ", " ((v :: rest).map fun v => [.slot v])).bindings =
          v :: rest := by
        rw [Fragment.bindings_joined, List.flatMap_map]
        exact List.flatMap_singleton' _
      show Sql.bindings (.text _ :: Sql.joined ", " _ ++ [.text ")"]) = v :: rest
      rw [Sql.bindings_append]
      show (Sql.joined ", " _).bindings ++ [] = _
      rw [List.append_nil, hslots]
  exact congrArg (List.filter Value.isNumber) hbindings

/-! ## Documents

A condition that was read from a document. What each function of the reader leaves behind has the
numbers of what it read. -/

theorem numbers_scalar {key : String} {json : Json} {v : Value} (h : listed key json = .ok v) :
    [v].filter Value.isNumber = json.numbers.map Value.ofNumber := by
  cases json with
  | arr items => cases h
  | obj members => cases h
  | num n =>
    obtain rfl := Except.ok.inj h
    exact List.filter_cons_of_pos (Value.isNumber_ofNumber n)
  | _ =>
    obtain rfl := Except.ok.inj h
    rfl

/-- The values of a list, each of which is a scalar. Induction on the items; a list or a map among
them is a fault. -/
theorem numbers_listed {key : String} {items : List Json} {values : List Value}
    (h : items.mapM (listed key) = .ok values) :
    values.filter Value.isNumber = (Json.numbersIn items).map Value.ofNumber := by
  induction items generalizing values with
  | nil =>
    obtain rfl := Except.ok.inj h
    rfl
  | cons item rest ih =>
    -- the first item was read, and then the rest
    rw [List.mapM_cons] at h
    obtain ⟨v, hitem, h⟩ := exists_of_bind h
    obtain ⟨others, hothers, rfl⟩ := exists_of_made h
    rw [← List.singleton_append, List.filter_append, numbers_scalar hitem, ih hothers,
      Json.numbersIn, List.map_append]

/-- An operand holds the numbers of the value it was read from: a list those of its items, a scalar
its own. -/
theorem numbers_operand {key : String} {json : Json} {right : Operand}
    (h : operand key json = .ok right) (field : String) (comparison : Comparison) :
    (compare field comparison right).numbers = json.numbers.map Value.ofNumber := by
  cases json with
  | arr items =>
    obtain ⟨values, hvalues, rfl⟩ := exists_of_made h
    rw [numbers_compare_oneOf, numbers_listed hvalues, Json.numbers]
  | obj members => cases h
  | _ =>
    obtain rfl := Except.ok.inj h
    rw [numbers_compare_scalar]
    exact @numbers_scalar key _ _ rfl

/-- The key of a comparison tells the field and the operator, and adds no number. -/
theorem numbers_comparisonOf {key : String} {json : Json} {c : Condition}
    (h : comparisonOf key json = .ok c) : c.numbers = json.numbers.map Value.ofNumber := by
  obtain ⟨right, hright, h⟩ := exists_of_bind h
  split at h
  next t _ =>
    obtain rfl := Except.ok.inj h
    exact numbers_operand hright t.field t.comparison
  next => cases h

/-- A scalar entry is a comparison, if it is read at all. -/
theorem numbers_ofScalar {key : String} {json : Json} {c : Condition}
    (h : ofScalar key json = .ok c) :
    c.numbers = json.numbers.map Value.ofNumber := by
  unfold ofScalar at h
  split at h
  · cases h
  · split at h
    · cases h
    · exact numbers_comparisonOf h

/-- The condition of an entry is a group of what its value holds, or a comparison with it. -/
theorem numbers_grouped {key : String} {read : Except Fault (List Condition)}
    {compared : Except Fault Condition}
    {c : Condition} {ns : List Value} (h : grouped key read compared = .ok c)
    (hread : ∀ children, read = .ok children → children.flatMap numbers = ns)
    (hcompared : compared = .ok c → c.numbers = ns) : c.numbers = ns := by
  unfold grouped at h
  split at h
  · obtain ⟨children, hchildren, rfl⟩ := exists_of_made h
    rw [numbers_group, hread children hchildren]
  · split at h
    · obtain ⟨children, hchildren, rfl⟩ := exists_of_made h
      rw [numbers_all, hread children hchildren]
    · exact hcompared h

/-- Ready-made SQL of a document brings no values. -/
theorem numbers_raw (sql : String) : (raw sql []).numbers = [] := by
  unfold numbers predicate
  rw [fragment?]
  split <;> rfl

-- By induction on the document: a condition is made of those of its parts in their order, so its
-- numbers are the numbers of the parts one behind the other. No part of a document is passed over
-- but keys.
mutual

/-- A document, by its form: ready-made SQL has no numbers, and what lists and maps hold becomes an
unwritten conjunction. -/
theorem numbers_ofDocument : ∀ (json : Json) {c : Condition}, ofDocument json = .ok c →
    c.numbers = json.numbers.map Value.ofNumber
  | .null, _, h => by
    obtain rfl := Except.ok.inj h
    rfl
  | .str sql, _, h => by
    obtain rfl := Except.ok.inj h
    exact numbers_raw sql
  | .arr items, _, h => by
    obtain ⟨children, hchildren, rfl⟩ := exists_of_made h
    rw [numbers_all, numbers_ofItems items hchildren, Json.numbers]
  | .obj members, _, h => by
    obtain ⟨children, hchildren, rfl⟩ := exists_of_made h
    rw [numbers_all, numbers_ofEntries members hchildren, Json.numbers]

/-- The items of a list, one behind the other. -/
theorem numbers_ofItems : ∀ (items : List Json) {children : List Condition},
    ofItems items = .ok children → children.flatMap numbers =
      (Json.numbersIn items).map Value.ofNumber
  | [], _, h => by
    obtain rfl := Except.ok.inj h
    rfl
  | item :: rest, _, h => by
    obtain ⟨c, hitem, h⟩ := exists_of_bind h
    obtain ⟨children, hchildren, rfl⟩ := exists_of_made h
    rw [List.flatMap_cons, numbers_ofDocument item hitem, numbers_ofItems rest hchildren,
      Json.numbersIn, List.map_append]

/-- The entries of a map, in the order in which they stand. -/
theorem numbers_ofEntries : ∀ (members : List (String × Json)) {children : List Condition},
    ofEntries members = .ok children →
    children.flatMap numbers = (Json.numbersUnder members).map Value.ofNumber
  | [], _, h => by
    obtain rfl := Except.ok.inj h
    rfl
  | (key, value) :: rest, _, h => by
    obtain ⟨c, hentry, h⟩ := exists_of_bind h
    obtain ⟨children, hchildren, rfl⟩ := exists_of_made h
    rw [List.flatMap_cons, numbers_ofEntry key value hentry, numbers_ofEntries rest hchildren,
      Json.numbersUnder, List.map_append]

/-- One entry. Lists and maps are groups or lists of operands, by the key (`numbers_grouped`); a
string is ready-made SQL below a position and an operand elsewhere. -/
theorem numbers_ofEntry (key : String) (json : Json) {c : Condition}
    (h : ofEntry key json = .ok c) :
    c.numbers = json.numbers.map Value.ofNumber := by
  cases json with
  | arr items =>
    rw [ofEntry_arr] at h
    exact numbers_grouped h (fun _ hchildren => numbers_ofItems items hchildren)
      numbers_comparisonOf
  | obj members =>
    rw [ofEntry_obj] at h
    exact numbers_grouped h (fun _ hchildren => numbers_ofEntries members hchildren)
      numbers_comparisonOf
  | str sql =>
    rw [ofEntry] at h
    split at h
    · -- a text under a connective is no condition
      cases h
    · split at h
      · obtain rfl := Except.ok.inj h
        exact numbers_raw sql
      · exact numbers_comparisonOf h
  | null => exact numbers_ofScalar h
  | bool _ => exact numbers_ofScalar h
  | num _ => exact numbers_ofScalar h

end

/-- **Numbers of conditions.** A condition binds just the numbers of its document, in their order.
-/
theorem numbers_ofJson {json : Json} {c : Condition} (h : ofJson json = .ok c) :
    c.numbers = json.numbers.map Value.ofNumber := by
  unfold ofJson at h
  cases hread : ofDocument json with
  | error fault =>
    rw [hread] at h
    cases h
  | ok c' =>
    rw [hread] at h
    obtain rfl := Except.ok.inj h
    exact numbers_ofDocument json hread

end Condition

end EntityMapper

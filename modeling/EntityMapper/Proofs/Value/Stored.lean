import EntityMapper.Entity.Record
import EntityMapper.Proofs.Binary64.Integers
import EntityMapper.Proofs.Condition.Numbers
import EntityMapper.Proofs.Row.Views
import EntityMapper.Proofs.Statement.Writes
import EntityMapper.Proofs.Value.Carried

/-!
# Documents as values

What becomes of a document that is bound to a statement. A scalar becomes a value of its own kind,
and an integer the narrowest value that holds it; but what is beyond the signed integers of 64 bits
has none, and becomes the nearest double. The main statement says which documents come back as they
were, and that the numbers of fields and of conditions are bound as what they become, and as nothing
else.

## Structure

* `isHeld` — documents that come back as they were.
* `IsInteger` — the integer that a value is, by whichever type it is held.
* `StandFor` — fields that stand for the members of an object, in an insert as well as in an update.
* `documents_stored_iff` — all ways by which a document becomes a value.
-/

namespace EntityMapper

namespace Json

/-- A document that is held as it is: any but an integer beyond the signed ones of 64 bits, and a
double that is not finite, which is not written in documents. -/
def isHeld : Json → Bool
  | .num (.int n) => decide (-2 ^ 63 ≤ n) && decide (n < 2 ^ 63)
  | .num (.real x) => x.isFinite
  | _ => true

end Json

namespace Value

/-! ## Integers

An integer is held in the first of three types that it fits in. For the first two nothing is lost,
and for doubles `Binary64.isInteger_ofInt_iff` says when something is. -/

/-- The value is exactly this integer, whatever its type. -/
def IsInteger (v : Value) (n : Int) : Prop :=
  match v with
  | .int32 m => m.toInt = n
  | .int64 m => m.toInt = n
  | .float x => x.IsInteger n
  | _ => False

/-- An integer is written as an integer, whatever its width. -/
theorem toJson_of_asInt? {v : Value} {n : Int} (h : v.asInt? = some n) : v.toJson = .ofInt n := by
  cases v with
  | int32 m => rw [toJson, Option.some.inj h]
  | int64 m => rw [toJson, Option.some.inj h]
  | _ => cases h

theorem isInteger_of_asInt? {v : Value} {n : Int} (h : v.asInt? = some n) : v.IsInteger n := by
  cases v with
  | int32 m => exact Option.some.inj h
  | int64 m => exact Option.some.inj h
  | _ => cases h

/-- A signed integer of 64 bits is held as an integer. -/
theorem asInt?_ofInt_short {n : Int} (hmin : -2 ^ 63 ≤ n) (hmax : n < 2 ^ 63) :
    (ofInt n).asInt? = some n :=
  asInt?_ofInt (by rw [Int64.toInt_minValue]; omega) (by rw [Int64.toInt_maxValue]; omega)

theorem ofInt_long {n : Int} (h : n < -2 ^ 63 ∨ 2 ^ 63 ≤ n) :
    ofInt n = .float (Binary64.ofInt n) := by
  unfold ofInt
  rw [Int32.toInt_minValue, Int32.toInt_maxValue, Int64.toInt_minValue, Int64.toInt_maxValue]
  rw [if_neg, if_neg]
  · rw [Bool.and_eq_true, decide_eq_true_iff, decide_eq_true_iff]
    omega
  · rw [Bool.and_eq_true, decide_eq_true_iff, decide_eq_true_iff]
    omega

/-- Of the unsigned integers of 64 bits that are not signed ones, a double holds the multiples of `2
^ 11`, since it has 53 bits of them. -/
theorem isInteger_ofInt_iff {n : Int} (hmin : -2 ^ 63 ≤ n) (hmax : n < 2 ^ 64) :
    (ofInt n).IsInteger n ↔ n < 2 ^ 63 ∨ 2 ^ 11 ∣ n := by
  rcases Int.lt_or_le n (2 ^ 63) with hshort | hlong
  · exact iff_of_true (isInteger_of_asInt? (asInt?_ofInt_short hmin hshort)) (.inl hshort)
  · -- it is not negative, so it is one of the numbers of which the double is known
    obtain ⟨k, rfl⟩ := Int.eq_ofNat_of_zero_le (show 0 ≤ n by omega)
    have hdouble := Binary64.isInteger_ofInt_iff (n := k) (by omega) (by omega)
    rw [ofInt_long (.inr hlong)]
    show (Binary64.ofInt k).IsInteger k ↔ _
    rw [hdouble]
    omega

/-! ## Documents

All documents but integers come back by their form alone, so the one case with an argument is that
of integers. -/

/-- Documents come back as they were, if they are held as they are. -/
theorem toJson_ofJson_iff (j : Json) : (ofJson j).toJson = j ↔ j.isHeld = true := by
  match j with
  | .num (.int n) =>
    show (ofInt n).toJson = .ofInt n ↔ (decide (-2 ^ 63 ≤ n) && decide (n < 2 ^ 63)) = true
    rw [Bool.and_eq_true, decide_eq_true_iff, decide_eq_true_iff]
    by_cases hshort : -2 ^ 63 ≤ n ∧ n < 2 ^ 63
    · exact iff_of_true (toJson_of_asInt? (asInt?_ofInt_short hshort.1 hshort.2)) hshort
    · refine iff_of_false (fun h => ?_) hshort
      rw [ofInt_long (by omega), toJson] at h
      -- a double is written as one, whatever its value
      split at h <;> cases h
  | .num (.real x) =>
    show (if x.isFinite then Json.num (.real x) else .null) = .num (.real x) ↔ x.isFinite = true
    cases x.isFinite <;> simp
  | .null => exact iff_of_true rfl rfl
  | .bool b => exact iff_of_true rfl rfl
  | .str s => exact iff_of_true rfl rfl
  | .arr items => exact iff_of_true rfl rfl
  | .obj members => exact iff_of_true rfl rfl

end Value

/-! ## Fields

Fields and records are made of members, and so are conditions. The numbers among the members are
bound as what they become. -/

namespace Statement

/-- A field that is not null is bound, by an insert as well as by an update. -/
theorem bound_of_get? {fields : Fields} {column : String} {v : Value}
    (h : fields.get? column = some v)
    (hnull : v.isNull = false) (table : String) (conditions : Condition) :
    v ∈ (insert table fields).bindings ∧ v ∈ (update table fields conditions).bindings := by
  obtain ⟨entry, hfound, rfl⟩ := Option.map_eq_some_iff.mp h
  have hentry : entry ∈ fields.entries := List.mem_of_find?_eq_some hfound
  -- with a field, there is something to insert
  have hne : fields.isEmpty = false := by
    unfold Dict.isEmpty
    cases hentries : fields.entries with
    | nil => rw [hentries] at hentry; cases hentry
    | cons _ _ => rfl
  have hslot : entry.2 ∈ boundValues fields := by
    refine List.mem_flatMap.mpr ⟨entry, hentry, ?_⟩
    rw [valueSlot, hnull]
    exact List.mem_singleton_self _
  rw [bindings_insert hne, bindings_update]
  exact ⟨hslot, List.mem_append_left _ hslot⟩

end Statement

namespace Fields

/-- A field is the value of the member with its name. -/
theorem get?_ofMembers (members : List (String × Json)) (column : String) :
    (ofMembers members).get? column = ((Json.ofEntries members).get? column).map Value.ofJson := by
  unfold ofMembers
  rw [Dict.get?_ofList, Json.get?_ofEntries, valuesUnder_map, List.getLast?_map]

/-- Fields that stand for the members of an object, and bind the numbers among these. -/
structure StandFor (fields : Fields) (members : List (String × Json)) : Prop where
  get? : ∀ column, fields.get? column = ((Json.ofEntries members).get? column).map Value.ofJson
  bound : ∀ column n, (Json.ofEntries members).get? column = some (.num n) → ∀ table conditions,
    Value.ofNumber n ∈ (Statement.insert table fields).bindings
      ∧ Value.ofNumber n ∈ (Statement.update table fields conditions).bindings

/-- Fields that are made of members stand for them. -/
theorem standFor_ofMembers (members : List (String × Json)) :
    (ofMembers members).StandFor members where
  get? := get?_ofMembers members
  bound column n hmember table conditions := by
    have hget : (ofMembers members).get? column = some (Value.ofNumber n) := by
      rw [get?_ofMembers, hmember]
      rfl
    exact Statement.bound_of_get? hget (Value.isNull_ofJson (by simp)) table conditions

end Fields

/-- **What documents become.** A document comes back as it was just if it is held as it is. Of the
integers of 64 bits, the signed ones keep their value; of the others, the multiples of `2 ^ 11` do.
Fields that are given as an object, the fields of a record and conditions bind the numbers of their
documents as what these become, and conditions bind no other numbers. -/
theorem documents_stored_iff (j : Json) :
    ((Value.ofJson j).toJson = j ↔ j.isHeld = true)
    ∧ (∀ n, j = .ofInt n → -2 ^ 63 ≤ n → n < 2 ^ 64 →
      ((Value.ofJson j).IsInteger n ↔ n < 2 ^ 63 ∨ 2 ^ 11 ∣ n))
    ∧ (∀ members, j = .obj members →
      (∃ fields, Fields.ofJson j = .ok fields ∧ fields.StandFor members)
      ∧ ∀ r : Record, r.toJson = j → ∃ fields, r.fields = .ok fields ∧ fields.StandFor members)
    ∧ (∀ c, Condition.ofJson j = .ok c → c.numbers = j.numbers.map Value.ofNumber) := by
  refine ⟨Value.toJson_ofJson_iff j, ?_, ?_, fun c => Condition.numbers_ofJson⟩
  · rintro n rfl hmin hmax
    exact Value.isInteger_ofInt_iff hmin hmax
  · rintro members rfl
    have hstand := Fields.standFor_ofMembers members
    refine ⟨⟨_, rfl, hstand⟩, fun r hr => ⟨_, ?_, hstand⟩⟩
    unfold Record.fields
    rw [hr]

/-- The posts after one of a large identifier, by either of two authors. -/
def laterPosts : Json :=
  .obj
    [("id >", .ofInt 9007199254740993), ("author_id", .arr [.ofInt 1, .ofInt 9223372036854775808])]

/-- A large identifier is kept to its last digit, and one that is larger still becomes a double,
which holds it because it is a power of two. -/
theorem documents_stored_iff_laterPosts :
    (Value.ofNumber (.int 9223372036854775808)).IsInteger 9223372036854775808
    ∧ ∃ c, Condition.ofJson laterPosts = .ok c
      ∧ c.numbers = [.int64 9007199254740993, .int32 1, .float ⟨0x43E0000000000000⟩] := by
  refine ⟨?_, _, rfl, ?_⟩
  · have hinteger := (documents_stored_iff (.ofInt 9223372036854775808)).2.1 9223372036854775808 rfl
    exact (hinteger (by decide) (by decide)).mpr (.inr (by decide))
  · exact (documents_stored_iff laterPosts).2.2.2 _ rfl

/-- Two integers that differ in their last digit become one value, which comes back as neither of
them. -/
theorem last_digits_are_lost :
    Value.ofJson (.ofInt 18446744073709551615) = Value.ofJson (.ofInt 18446744073709551614)
    ∧ (Value.ofJson (.ofInt 18446744073709551615)).toJson ≠ .ofInt 18446744073709551615
    ∧ ¬ (Value.ofJson (.ofInt 18446744073709551615)).IsInteger 18446744073709551615 := by
  -- both are beyond the signed integers and have the same nearest double
  have hdouble : Binary64.ofInt (18446744073709551615 : Nat) =
      Binary64.ofInt (18446744073709551614 : Nat) := by
    rw [Binary64.ofInt_long (by decide) (by decide), Binary64.ofInt_long (by decide) (by decide)]
    rfl
  refine ⟨?_, ?_, ?_⟩
  · show Value.ofInt 18446744073709551615 = Value.ofInt 18446744073709551614
    rw [Value.ofInt_long (.inr (by decide)), Value.ofInt_long (.inr (by decide))]
    exact congrArg Value.float hdouble
  · rw [Ne, Value.toJson_ofJson_iff]
    decide
  · show ¬ (Value.ofInt 18446744073709551615).IsInteger 18446744073709551615
    rw [Value.isInteger_ofInt_iff (by decide) (by decide)]
    decide

end EntityMapper

import EntityMapper.Value.Basic

/-!
# Values by way of JSON

A value that is taken from a row as a document is bound to a statement as what the document stands
for. For the values that JSON has a form for this is the value itself, up to the width of an
integer; all others come back as something else.

## Structure

* `carried` — there and back.
* `hasJsonForm` — the kinds of values that JSON has a form for.
* `alike_carried_iff` — one case for each kind of value. Only integers need an argument, since JSON
  does not tell their widths apart.
-/

namespace EntityMapper.Value

/-- What comes back of a value that is written as a document. -/
def carried (v : Value) : Value := ofJson v.toJson

/-- The same value, but for the width of an integer. -/
def Alike (v w : Value) : Prop := v = w ∨ ∃ n, v.asInt? = some n ∧ w.asInt? = some n

/-- Whether JSON has a form of its own for a value. A document that is itself a single value has
one, but that is the form of the value. -/
def hasJsonForm : Value → Bool
  | .null => true
  | .bool _ => true
  | .int32 _ => true
  | .int64 _ => true
  | .float x => x.isFinite
  | .text _ => true
  | .bytes _ => false
  | .uuid _ => false
  | .instant _ => false
  | .date _ => false
  | .json (.arr _) => true
  | .json (.obj _) => true
  | .json _ => false

/-- An integer of at most 64 bits is kept, in whichever of the types it comes back. -/
theorem asInt?_ofInt {n : Int} (hmin : Int64.minValue.toInt ≤ n) (hmax : n ≤ Int64.maxValue.toInt) :
    (ofInt n).asInt? = some n := by
  rw [Int64.toInt_minValue] at hmin
  rw [Int64.toInt_maxValue] at hmax
  -- an integer that is not short is held by the longer type
  rw [ofInt, Int32.toInt_minValue, Int32.toInt_maxValue, Int64.toInt_minValue, Int64.toInt_maxValue]
  split
  next h =>
    rw [Bool.and_eq_true, decide_eq_true_iff, decide_eq_true_iff] at h
    rw [asInt?, Int32.toInt_ofInt_of_le h.1 (by omega)]
  next =>
    have hlong : (decide (-2 ^ 63 ≤ n) && decide (n ≤ 2 ^ 63 - 1)) = true :=
      Bool.and_eq_true_iff.mpr ⟨decide_eq_true hmin, decide_eq_true hmax⟩
    rw [if_pos hlong, asInt?, Int64.toInt_ofInt_of_le hmin (by omega)]

/-- A number of a document is bound as a number. -/
theorem ofJson_num_ne (n : Json.Number) (j : Json) : ofJson (.num n) ≠ .json j := by
  intro h
  cases n with
  | real x => cases h
  | int n =>
    have hinteger : ofInt n = .json j := h
    rw [ofInt] at hinteger
    split at hinteger
    · cases hinteger
    · split at hinteger <;> cases hinteger

/-- A value with a form in JSON is the only kind that comes back as it was. -/
theorem alike_carried_iff (v : Value) : v.carried.Alike v ↔ v.hasJsonForm = true := by
  cases v with
  | null => simp [carried, toJson, ofJson, Alike, hasJsonForm]
  | bool b => simp [carried, toJson, ofJson, Alike, hasJsonForm]
  | int32 n =>
    refine iff_of_true (.inr ⟨n.toInt, ?_, rfl⟩) rfl
    have hmin := n.minValue_le_toInt
    have hmax := n.toInt_le
    rw [Int32.toInt_minValue] at hmin
    rw [Int32.toInt_maxValue] at hmax
    exact asInt?_ofInt (by rw [Int64.toInt_minValue]; omega) (by rw [Int64.toInt_maxValue]; omega)
  | int64 n =>
    exact iff_of_true (.inr ⟨n.toInt, asInt?_ofInt n.minValue_le_toInt n.toInt_le, rfl⟩) rfl
  | float x =>
    cases hfinite : x.isFinite
      <;> simp [carried, toJson, ofJson, Alike, hasJsonForm, hfinite, asInt?]
  | text s => simp [carried, toJson, ofJson, Alike, hasJsonForm]
  | bytes b => simp [carried, toJson, ofJson, Alike, hasJsonForm, asInt?]
  | uuid u => simp [carried, toJson, ofJson, Alike, hasJsonForm, asInt?]
  | instant t => simp [carried, toJson, ofJson, Alike, hasJsonForm, asInt?]
  | date d => simp [carried, toJson, ofJson, Alike, hasJsonForm, asInt?]
  | json j =>
    cases j with
    | num n =>
      refine iff_of_false ?_ (by simp [hasJsonForm])
      -- a number comes back as a number, and not as a document
      rintro (h | ⟨m, -, hm⟩)
      · exact ofJson_num_ne n _ h
      · cases hm
    | _ => simp [carried, toJson, ofJson, Alike, hasJsonForm, asInt?]

end EntityMapper.Value

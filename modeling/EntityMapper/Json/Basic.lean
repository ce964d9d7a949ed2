import EntityMapper.Binary64.Basic

/-!
# JSON documents

A document keeps the members of an object in the order in which they were written; no two members
have the same key, because a later one takes the place of the earlier one. Integers are exact and
kept apart from the numbers with a fraction or an exponent.
-/

namespace EntityMapper

namespace Json

/-- A number of a document. -/
inductive Number where
  | int (n : Int)
  | real (x : Binary64)
deriving DecidableEq, Repr

end Json

/-- A JSON document. -/
inductive Json where
  | null
  | bool (b : Bool)
  | num (n : Json.Number)
  | str (s : String)
  | arr (items : List Json)
  | obj (members : List (String × Json))
deriving Repr

namespace Json

instance : Inhabited Json := ⟨null⟩

def lookup (key : String) : List (String × Json) → Option Json
  | [] => none
  | (k, v) :: rest => if k = key then some v else lookup key rest

/-- Members with one more entry. An entry of the same key is replaced where it stands. -/
def put (key : String) (value : Json) : List (String × Json) → List (String × Json)
  | [] => [(key, value)]
  | (k, v) :: rest => if k = key then (k, value) :: rest else (k, v) :: put key value rest

/-- The object that entries written one after the other make up. -/
def ofEntries (entries : List (String × Json)) : Json :=
  .obj (entries.foldl (fun members (key, value) => put key value members) [])

/-- The value under a key of an object; other documents have no keys. -/
def get? (key : String) : Json → Option Json
  | .obj members => lookup key members
  | _ => none

def ofInt (n : Int) : Json := .num (.int n)

/-! ## Looking up what was put -/

theorem lookup_put_self (key : String) (value : Json) (members : List (String × Json)) :
    lookup key (put key value members) = some value := by
  induction members with
  | nil => simp [put, lookup]
  | cons entry rest ih => by_cases h : entry.1 = key <;> simp [put, lookup, h, ih]

theorem lookup_put_of_ne {key other : String} (h : other ≠ key) (value : Json)
    (members : List (String × Json)) :
    lookup other (put key value members) = lookup other members := by
  induction members with
  | nil => simp [put, lookup, h.symm]
  | cons entry rest ih =>
    obtain ⟨k, v⟩ := entry
    by_cases hk : k = key
    · subst hk; simp [put, lookup, h.symm]
    · simp only [put, hk, if_false, lookup, ih]

theorem keys_put (key : String) (value : Json) (members : List (String × Json)) :
    (put key value members).map Prod.fst =
      if key ∈ members.map Prod.fst then members.map Prod.fst
        else members.map Prod.fst ++ [key] := by
  induction members with
  | nil => simp [put]
  | cons entry rest ih =>
    by_cases h : entry.1 = key
    · simp [put, h]
    · have h' : key ≠ entry.1 := fun e => h e.symm
      simp only [put, h, if_false, List.map_cons, ih, List.mem_cons, h', false_or]
      split <;> simp

end Json

end EntityMapper

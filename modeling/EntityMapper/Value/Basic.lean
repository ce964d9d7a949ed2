import EntityMapper.Binary64.Nearest
import EntityMapper.Json.Printer
import EntityMapper.Value.Calendar
import EntityMapper.Value.Uuid

/-!
# Values

What a column may hold, and how it turns into JSON and back. Going to JSON, identifiers and times
become strings and octets an array of numbers; coming back, a number takes the narrowest integer
type that holds it, and arrays and objects stay documents.
-/

namespace EntityMapper

/-- A value of a column, or one bound to a statement. -/
inductive Value where
  | null
  | bool (b : Bool)
  | int32 (n : Int32)
  | int64 (n : Int64)
  | float (x : Binary64)
  | text (s : String)
  | bytes (b : List UInt8)
  | uuid (u : Uuid)
  | instant (t : Instant)
  | date (d : Date)
  | json (j : Json)
deriving Repr

namespace Value

instance : Inhabited Value := ⟨null⟩

/-- Whether the value is the null of the database. A JSON null is a document and not this. -/
def isNull : Value → Bool
  | .null => true
  | _ => false

def asInt? : Value → Option Int
  | .int32 n => some n.toInt
  | .int64 n => some n.toInt
  | _ => none

/-- The value as a document. Doubles that are not finite have no place in JSON and become null. -/
def toJson : Value → Json
  | .null => .null
  | .bool b => .bool b
  | .int32 n => .ofInt n.toInt
  | .int64 n => .ofInt n.toInt
  | .float x => if x.isFinite then .num (.real x) else .null
  | .text s => .str s
  | .bytes b => .arr (b.map fun octet => .ofInt octet.toNat)
  | .uuid u => .str u.text
  | .instant t => .str t.text
  | .date d => .str d.text
  | .json j => j

/-- An integer in the narrowest type that holds it: 32 bits, else 64 bits, else the nearest double.
-/
def ofInt (n : Int) : Value :=
  if Int32.minValue.toInt ≤ n && n ≤ Int32.maxValue.toInt then .int32 (Int32.ofInt n)
  else if Int64.minValue.toInt ≤ n && n ≤ Int64.maxValue.toInt then .int64 (Int64.ofInt n)
  else .float (Binary64.ofInt n)

def ofJson : Json → Value
  | .null => .null
  | .bool b => .bool b
  | .num (.int n) => ofInt n
  | .num (.real x) => .float x
  | .str s => .text s
  | .arr items => .json (.arr items)
  | .obj members => .json (.obj members)

/-- Of documents, null alone is the null of the database. -/
theorem isNull_ofJson {json : Json} (h : json ≠ .null) : (ofJson json).isNull = false := by
  match json, h with
  | .null, h => exact absurd rfl h
  | .bool b, _ => rfl
  | .num (.int n), _ =>
    show (ofInt n).isNull = false
    rw [ofInt]
    split
    · rfl
    · split <;> rfl
  | .num (.real x), _ => rfl
  | .str s, _ => rfl
  | .arr items, _ => rfl
  | .obj members, _ => rfl

/-- The value in a message: a text stands for itself, anything else as JSON. -/
def display : Value → String
  | .null => "NULL"
  | .text s => s
  | v => v.toJson.text

end Value

end EntityMapper

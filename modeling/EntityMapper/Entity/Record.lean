import EntityMapper.Json.Printer
import EntityMapper.Binary64.Nearest
import EntityMapper.Text.Quoted
import EntityMapper.Row

/-!
# Records

The instances of an entity type, without what is related to them. Their shape says which attributes
they have; a record is read from a document by that shape and written as one.

An object is read in the order of its members, and the first fault is reported. Members that are no
attributes are passed over; attributes that are missing come last, and are only missed if they are
not optional. A list gives the attributes in their order.

Every record can be written (`Record.toJson`). A type whose instances may refuse to be written,
because a field of theirs has a serializer that fails, lies outside these shapes; a relation of such
an instance ends in that refusal before any schema is looked up, and so does its insertion once its
schema is found.
-/

namespace EntityMapper

/-- What an attribute may hold. -/
inductive Primitive where
  | integer
  | real
  | boolean
  | text
deriving DecidableEq, Repr

/-- An attribute of an entity type. -/
structure Attribute where
  name : String
  primitive : Primitive
  isOptional : Bool := false
deriving DecidableEq, Repr

/-- What the instances of an entity type look like. -/
inductive Shape where
  /-- Attributes in their order. -/
  | attributes (list : List Attribute)
  /-- A single value without a name. -/
  | bare (primitive : Primitive)
deriving DecidableEq, Repr

/-- The value of an attribute. -/
inductive Datum where
  | absent
  | integer (n : Int64)
  | real (x : Binary64)
  | boolean (b : Bool)
  | text (s : String)
deriving DecidableEq, Repr

/-- The content of a record. -/
inductive Content where
  | attributes (members : List (String × Datum))
  | bare (datum : Datum)
deriving DecidableEq, Repr

/-- An instance of an entity type. -/
structure Record where
  /-- The name of the entity type. -/
  entity : String
  content : Content
deriving DecidableEq, Repr

/-! ## Writing -/

def Datum.toJson : Datum → Json
  | .absent => .null
  | .integer n => .ofInt n.toInt
  | .real x => if x.isFinite then .num (.real x) else .null
  | .boolean b => .bool b
  | .text s => .str s

namespace Record

def toJson (r : Record) : Json :=
  match r.content with
  | .attributes members => .obj (members.map fun (name, datum) => (name, datum.toJson))
  | .bare datum => datum.toJson

def fields (r : Record) : Except Error Fields :=
  match r.toJson with
  | .obj members => .ok (Fields.ofMembers members)
  | other => .error (.hydration s!"{r.entity} does not serialize to an object: {other.text}")

end Record

/-! ## Reading -/

namespace Record

/-- Why a document is no record of a shape. -/
inductive Fault where
  /-- Another kind of document stands where something was expected. -/
  | unexpected (found : Json) (expected : String)
  /-- An integer is out of range. -/
  | outOfRange (n : Int) (expected : String)
  /-- An attribute is missing. -/
  | missing (name : String)
  /-- A list has the wrong length. -/
  | badLength (length : Nat) (expected : String)

def described : Json → String
  | .null => "null"
  | .bool b => s!"boolean `{b}`"
  | .num (.int n) => s!"integer `{n}`"
  | .num (.real x) => s!"floating point `{(Json.num (.real x)).text}`"
  | .str s => s!"string {Text.quoted s}"
  | .arr _ => "sequence"
  | .obj _ => "map"

def Fault.message : Fault → String
  | .unexpected found expected => s!"invalid type: {described found}, expected {expected}"
  | .outOfRange n expected => s!"invalid value: integer `{n}`, expected {expected}"
  | .missing name => s!"missing field `{name}`"
  | .badLength length expected => s!"invalid length {length}, expected {expected}"

end Record

def Primitive.expectation : Primitive → String
  | .integer => "i64"
  | .real => "f64"
  | .boolean => "a boolean"
  | .text => "a string"

/-- A primitive read from a document. Integers may stand for reals, with the nearest one meant. -/
def Primitive.read (p : Primitive) (json : Json) : Except Record.Fault Datum :=
  match p, json with
  | .integer, .num (.int n) =>
    if Int64.minValue.toInt ≤ n && n ≤ Int64.maxValue.toInt then .ok (.integer (Int64.ofInt n))
    else .error (.outOfRange n p.expectation)
  | .real, .num (.int n) => .ok (.real (Binary64.ofInt n))
  | .real, .num (.real x) => .ok (.real x)
  | .boolean, .bool b => .ok (.boolean b)
  | .text, .str s => .ok (.text s)
  | _, json => .error (.unexpected json p.expectation)

def Attribute.read (a : Attribute) (json : Json) : Except Record.Fault Datum :=
  match json with
  | .null => if a.isOptional then .ok .absent else a.primitive.read .null
  | json => a.primitive.read json

/-- The attributes among the members of an object, in the order of the members. -/
def Attribute.readMembers (attributes : List Attribute) :
    List (String × Json) → Except Record.Fault (List (String × Datum))
  | [] => .ok []
  | (key, json) :: rest =>
    match attributes.find? (·.name == key) with
    | some a => return (key, ← a.read json) :: (← readMembers attributes rest)
    | none => readMembers attributes rest

/-- The attributes in their own order, from those that were found. -/
def Attribute.arrange (found : List (String × Datum)) :
    List Attribute → Except Record.Fault (List (String × Datum))
  | [] => .ok []
  | a :: rest => do
    let datum ←
      match found.lookup a.name with
      | some datum => .ok datum
      | none => if a.isOptional then .ok .absent else .error (.missing a.name)
    return (a.name, datum) :: (← arrange found rest)

/-- The attributes in their order from the items of a list, of which `taken` came before. -/
def Attribute.readItems (expected : String) (taken : Nat) :
    List Attribute → List Json → Except Record.Fault (List (String × Datum))
  | [], [] => .ok []
  | [], items@(_ :: _) => .error (.badLength (taken + items.length) "fewer elements in array")
  | _ :: _, [] => .error (.badLength taken expected)
  | a :: attributes, json :: items =>
    return (a.name, ← a.read json) :: (← readItems expected (taken + 1) attributes items)

namespace Record

def listExpectation (entity : String) (attributes : List Attribute) : String :=
  let noun := if attributes.length == 1 then "element" else "elements"
  s!"struct {entity} with {attributes.length} {noun}"

def readContent (entity : String) : Shape → Json → Except Fault Content
  | .bare p, json => return .bare (← p.read json)
  | .attributes list, .obj members => do
    return .attributes (← Attribute.arrange (← Attribute.readMembers list members) list)
  | .attributes list, .arr items =>
    return .attributes (← Attribute.readItems (listExpectation entity list) 0 list items)
  | .attributes _, json => .error (.unexpected json s!"struct {entity}")

def read (entity : String) (shape : Shape) (json : Json) : Except Fault Record :=
  (readContent entity shape json).map fun content => ⟨entity, content⟩

end Record

end EntityMapper

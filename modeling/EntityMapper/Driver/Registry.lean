import EntityMapper.Connection.Basic
import EntityMapper.Text.Quoted

/-!
# Registries of drivers

Which driver a connection gets is decided by the identifier in its settings. Identifiers are
compared without regard to case.
-/

namespace EntityMapper

/-- How drivers are made, by their identifiers in lower case. -/
structure DriverRegistry (δ : Type) where
  makers : Dict (Connection → Except Error δ)

namespace DriverRegistry

variable {δ : Type}

def empty : DriverRegistry δ := ⟨.empty⟩

/-- Registers how the drivers of an identifier are made. -/
def register (r : DriverRegistry δ) (identifier : String) (make : Connection → Except Error δ) :
    DriverRegistry δ :=
  ⟨r.makers.insert (Text.lowercase identifier) make⟩

/-- The registry of the two backends, which are registered under three identifiers. -/
def standard (make : Backend → Connection → Except Error δ) : DriverRegistry δ :=
  ((empty.register "postgres" (make .postgres)).register "postgresql" (make .postgres)).register
    "sqlite" (make .sqlite)

def contains (r : DriverRegistry δ) (identifier : String) : Bool :=
  r.makers.contains (Text.lowercase identifier)

def identifiers (r : DriverRegistry δ) : List String := r.makers.keys

def create (r : DriverRegistry δ) (c : Connection) : Except Error δ :=
  match r.makers.get? (Text.lowercase c.driver) with
  | some make => make c
  | none => .error (.missingDriver c.driver)

def summary (r : DriverRegistry δ) : String :=
  let shown := ", ".intercalate (r.identifiers.map Text.quoted)
  s!"DriverRegistry \x7b identifiers: [{shown}] \x7d"

end DriverRegistry

end EntityMapper

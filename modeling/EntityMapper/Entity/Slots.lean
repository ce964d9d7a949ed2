import EntityMapper.Dict
import EntityMapper.Error
import EntityMapper.Text.Quoted

/-!
# Relation slots

What an instance knows of its relations. Each relation has a slot, which is unresolved until it is
first asked for, resolving while it is loaded, and then resolved or failed. A resolved slot keeps
what was loaded and a failed one its error; either stays so until it is reset.

A slot remembers the type of what it holds, and gives it out only where that type is asked for.
-/

namespace EntityMapper

/-- What a relation leads to. -/
inductive Related (α : Type) where
  /-- At most one target. -/
  | one (target? : Option α)
  /-- Any number of targets. -/
  | many (targets : List α)
deriving DecidableEq, Repr

namespace Related

variable {α : Type}

/-- The single target, where at most one is expected. -/
def asOne? : Related α → Option α
  | .one target? => target?
  | .many _ => none

def toList : Related α → List α
  | .one target? => target?.toList
  | .many targets => targets

def size (r : Related α) : Nat := r.toList.length

def isEmpty (r : Related α) : Bool := r.toList.isEmpty

end Related

/-- How far a relation has been loaded. -/
inductive RelationState where
  | unresolved
  | resolving
  | resolved
  | failed
deriving DecidableEq, Repr

def RelationState.name : RelationState → String
  | .unresolved => "Unresolved"
  | .resolving => "Resolving"
  | .resolved => "Resolved"
  | .failed => "Failed"

/-- A slot that is not unresolved. -/
inductive Slot (α : Type) where
  | resolving
  /-- Holds targets of the type of this name. -/
  | resolved (typeName : String) (related : Related α)
  | failed (e : Error)
deriving DecidableEq, Repr

def Slot.state {α : Type} : Slot α → RelationState
  | .resolving => .resolving
  | .resolved _ _ => .resolved
  | .failed _ => .failed

/-- The slots of an instance, by the name of the relation. What is not there is unresolved. -/
structure Slots (α : Type) where
  touched : Dict (Slot α) := .empty

namespace Slots

variable {α : Type}

def empty : Slots α := ⟨.empty⟩

instance : Inhabited (Slots α) := ⟨empty⟩

def state (s : Slots α) (relation : String) : RelationState :=
  ((s.touched.get? relation).map Slot.state).getD .unresolved

def isResolved (s : Slots α) (relation : String) : Bool := s.state relation == .resolved

/-- What a relation leads to, or the error with which it failed. There is neither before the
relation has been loaded. -/
def get? (s : Slots α) (relation typeName : String) : Option (Except Error (Related α)) :=
  match s.touched.get? relation with
  | none => none
  | some .resolving => none
  | some (.failed e) => some (.error e)
  | some (.resolved held related) =>
    if held = typeName then some (.ok related)
    else some (.error (.relation s!"Relation '{relation}' does not hold {typeName}"))

def preload (s : Slots α) (relation typeName : String) (related : Related α) : Slots α :=
  ⟨s.touched.insert relation (.resolved typeName related)⟩

def markResolving (s : Slots α) (relation : String) : Slots α :=
  ⟨s.touched.insert relation .resolving⟩

def markFailed (s : Slots α) (relation : String) (e : Error) : Slots α :=
  ⟨s.touched.insert relation (.failed e)⟩

def reset (s : Slots α) (relation : String) : Slots α := ⟨s.touched.erase relation⟩

/-- The touched relations with their states, in the order of their names. -/
def states (s : Slots α) : List (String × RelationState) :=
  s.touched.entries.map fun (relation, slot) => (relation, slot.state)

def summary (s : Slots α) : String :=
  let shown := s.states.map fun (relation, state) => s!"{Text.quoted relation}: {state.name}"
  "\x7b" ++ ", ".intercalate shown ++ "\x7d"

/-- Whether two instances have their relations in the same states, whatever was loaded. -/
def sameStates (a b : Slots α) : Bool := a.states == b.states

end Slots

end EntityMapper

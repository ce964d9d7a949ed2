import EntityMapper.Manager.Basic

/-!
# Pools of managers

Several managers, each with its own driver. In a shared pool they have one schema cache and one
relation registry between them: what one of them learns or forgets, all do.
-/

namespace EntityMapper

/-- Managers that may share what they know. -/
structure Pool (δ : Type) where
  managers : List (Manager δ)
  isShared : Bool := false

namespace Pool

variable {δ : Type} {α : Type}

def learning (from_ : Manager δ) (m : Manager δ) : Manager δ :=
  { m with schemas := from_.schemas, relations := from_.relations }

/-- Puts a manager in its place, and spreads its knowledge if that is shared. -/
def replace (pool : Pool δ) (index : Nat) (m : Manager δ) : Pool δ :=
  let managers := pool.managers.set index m
  { pool with managers := if pool.isShared then managers.map (learning m) else managers }

/-- An action of the manager at this place; without such a manager nothing is done. -/
def perform (pool : Pool δ) (index : Nat) (action : Action (Manager δ) α) :
    Option (Except Error α × Pool δ) :=
  pool.managers[index]?.map fun m =>
    let (result, m) := action.perform m
    (result, pool.replace index m)

end Pool

end EntityMapper

import EntityMapper.Proofs.Manager.Mirror

/-!
# Watching changes nothing

A manager of a watched driver does what the manager of the driver itself does: every operation has
the same result, and leaves the same manager, if the calls are forgotten. So what is said of the
calls of a watched manager is said of what any manager asks of its driver.
-/

namespace EntityMapper.Manager

open EntityMapper.Action (Mirrors)

variable {δ : Type}

/-- The manager with the driver itself, whose calls are forgotten. -/
def forget (m : Manager (Watched δ)) : Manager δ := { m with driver := m.driver.driver }

variable [Driver δ]

/-- Every operation is mirrored, by `Mirrored.action` for watched drivers. -/
theorem mirrors_action (op : Operation) :
    Mirrors forget (op.action : Action (Manager (Watched δ)) Unit) op.action :=
  Driver.mirrored_watched.action op

/-- **Watching changes nothing.** Without its calls, a watched manager is after each run what the
manager itself is. -/
theorem forget_afterAll (ops : List Operation) (m : Manager (Watched δ)) :
    (afterAll ops m).forget = afterAll ops m.forget :=
  (Driver.mirrored_watched.afterAll ops m).symm

end EntityMapper.Manager

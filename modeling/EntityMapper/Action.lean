import EntityMapper.Error

/-!
# Actions

What talks to a database changes a state on the way and may fail. A failure does not undo what
happened before it: statements that were executed stay executed. So an action answers both its
result and the state in which it left things.
-/

namespace EntityMapper

/-- A step that changes a state and may fail. -/
abbrev Action (σ α : Type) := ExceptT Error (StateM σ) α

namespace Action

variable {σ τ α β : Type}

/-- The action that a change of state with a result makes up. -/
def ofRun (run : σ → Except Error α × σ) : Action σ α := ExceptT.mk run

/-- The result of an action from a state, and the state after it. -/
def perform (action : Action σ α) (state : σ) : Except Error α × σ :=
  StateT.run (ExceptT.run action) state

/-- The action that leaves the state alone and has the given result. -/
def ofExcept (result : Except Error α) : Action σ α := ofRun fun state => (result, state)

/-- The action that only changes the state. -/
def change (f : σ → σ) : Action σ Unit := ofRun fun state => (.ok (), f state)

/-- The action that answers something about the state. -/
def ask (f : σ → α) : Action σ α := ofRun fun state => (.ok (f state), state)

def on (part : σ → τ) (replace : σ → τ → σ) (action : Action τ α) : Action σ α :=
  ofRun fun state =>
    let (result, changed) := action.perform (part state)
    (result, replace state changed)

/-! ## Performing -/

@[simp] theorem perform_ofRun (run : σ → Except Error α × σ) (state : σ) :
    (ofRun run).perform state = run state := rfl

@[simp] theorem perform_pure (a : α) (state : σ) :
    perform (pure a : Action σ α) state = (.ok a, state) := rfl

@[simp] theorem perform_throw (e : Error) (state : σ) :
    perform (throw e : Action σ α) state = (.error e, state) := rfl

@[simp] theorem perform_ofExcept (result : Except Error α) (state : σ) :
    (ofExcept result : Action σ α).perform state = (result, state) := rfl

@[simp] theorem perform_change (f : σ → σ) (state : σ) :
    (change f).perform state = (.ok (), f state) := rfl

@[simp] theorem perform_ask (f : σ → α) (state : σ) :
    (ask f).perform state = (.ok (f state), state) := rfl

@[simp] theorem perform_on (part : σ → τ) (replace : σ → τ → σ) (action : Action τ α) (state : σ) :
    (on part replace action).perform state =
      ((action.perform (part state)).1, replace state (action.perform (part state)).2) := rfl

/-- After a success the next action goes on from the state that was left; a failure is the end. -/
theorem perform_bind (action : Action σ α) (next : α → Action σ β) (state : σ) :
    (action >>= next).perform state =
      match action.perform state with
      | (.ok a, state) => (next a).perform state
      | (.error e, state) => (.error e, state) := by
  show StateT.run (ExceptT.run (action >>= next)) state = _
  rcases h : action.perform state with ⟨result, left⟩
  have h' : (ExceptT.run action).run state = (result, left) := h
  rw [ExceptT.run_bind, StateT.run_bind, h']
  cases result <;> rfl

/-- A success stands; a failure is handled in the state that was left. -/
theorem perform_tryCatch (action : Action σ α) (handle : Error → Action σ α) (state : σ) :
    (tryCatch action handle).perform state =
      match action.perform state with
      | (.ok a, state) => (.ok a, state)
      | (.error e, state) => (handle e).perform state := by
  show StateT.run (ExceptT.run (tryCatch action handle)) state = _
  rcases h : action.perform state with ⟨result, left⟩
  have h' : (ExceptT.run action).run state = (result, left) := h
  rw [ExceptT.run_tryCatch, StateT.run_bind, h']
  cases result <;> rfl

end Action

end EntityMapper

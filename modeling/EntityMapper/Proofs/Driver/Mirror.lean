import EntityMapper.Proofs.Driver.Watched

/-!
# Actions that mirror each other

Two actions on states of two kinds mirror each other if they have the same result, and leave states
that belong together whenever they begin in such. What is made of mirroring actions mirrors as well.

Drivers of two kinds mirror each other if all their actions do (`Mirrored`). A watched driver
mirrors the driver itself. And if no action ends some property of a driver (`Invariant`), then the
drivers with that property are a kind of their own, which mirrors all of them.

## Structure

* `Mirrors` — the relation between two actions, for a map from the states of the one to those of the
  other. There is a lemma for each way of making an action.
* `Driver.Mirrored` — all actions of a driver at once, as fields of a structure.
* `Invariant` — a property of drivers that no action ends. The drivers with the property are drivers
  themselves (`Invariant.driver`), and mirror those without it (`Invariant.mirrored`).
-/

namespace EntityMapper.Action

variable {σ τ σ' τ' α β : Type} {f : σ → τ}

/-- The second action does on the image of a state what the first one does on the state. -/
def Mirrors (f : σ → τ) (a : Action σ α) (b : Action τ α) : Prop :=
  ∀ s, b.perform (f s) = ((a.perform s).1, f (a.perform s).2)

namespace Mirrors

theorem pure (x : α) : Mirrors f (Pure.pure x) (Pure.pure x) := fun _ => rfl

/-- An action that fails at once fails on both sides. -/
theorem throw (e : Error) : Mirrors f (MonadExcept.throw e : Action σ α) (MonadExcept.throw e) :=
  fun _ => rfl

/-- What is worked out without the state comes out alike. -/
theorem ofExcept (result : Except Error α) :
    Mirrors f (Action.ofExcept result) (Action.ofExcept result) := fun _ => rfl

/-- Two questions mirror each other if they are answered alike. -/
theorem ask {g : σ → α} {h : τ → α} (hgh : ∀ s, h (f s) = g s) : Mirrors f (Action.ask g)
      (Action.ask h) :=
  fun s => by simp [hgh]

/-- Two changes do if they commute with the map of states. -/
theorem change {g : σ → σ} {h : τ → τ} (hgh : ∀ s, h (f s) = f (g s)) :
    Mirrors f (Action.change g) (Action.change h) :=
  fun s => by simp [hgh]

/-- One action after another. If the first one fails, so does its mirror image, and nothing follows
on either side. -/
theorem bind {a : Action σ α} {b : Action τ α} {next : α → Action σ β} {next' : α → Action τ β}
    (h : Mirrors f a b) (hnext : ∀ x, Mirrors f (next x) (next' x)) :
    Mirrors f (a >>= next) (b >>= next') := by
  intro s
  rw [perform_bind, perform_bind, h s]
  -- both have performed the first action, with one result
  rcases a.perform s with ⟨result, left⟩
  cases result with
  | ok x => exact hnext x left
  | error e => rfl

/-- What is done about a failure is done on both sides, since both fail with the same error. -/
theorem tryCatch {a : Action σ α} {b : Action τ α} {handle : Error → Action σ α}
    {handle' : Error → Action τ α} (h : Mirrors f a b)
    (hhandle : ∀ e, Mirrors f (handle e) (handle' e)) :
    Mirrors f (MonadExcept.tryCatch a handle) (MonadExcept.tryCatch b handle') := by
  intro s
  rw [perform_tryCatch, perform_tryCatch, h s]
  rcases a.perform s with ⟨result, left⟩
  cases result with
  | ok x => rfl
  | error e => exact hhandle e left

/-- A loop mirrors a loop, item by item. Induction on the items. -/
theorem forM {γ : Type} {items : List γ} {a : γ → Action σ PUnit} {b : γ → Action τ PUnit}
    (h : ∀ x, Mirrors f (a x) (b x)) : Mirrors f (items.forM a) (items.forM b) := by
  induction items with
  | nil => exact pure ()
  | cons x rest ih => exact bind (h x) fun _ => ih

/-- Actions on parts of states mirror each other if the parts belong together before and after. -/
theorem on {g : σ' → τ'} {part : σ → σ'} {replace : σ → σ' → σ} {part' : τ → τ'}
    {replace' : τ → τ' → τ} {a : Action σ' α} {b : Action τ' α}
    (hpart : ∀ s, part' (f s) = g (part s))
    (hreplace : ∀ s t, replace' (f s) (g t) = f (replace s t)) (h : Mirrors g a b) :
    Mirrors f (Action.on part replace a) (Action.on part' replace' b) := by
  intro s
  rw [perform_on, perform_on, hpart, h (part s), hreplace]

end Mirrors

end EntityMapper.Action

namespace EntityMapper.Driver

open EntityMapper.Action (Mirrors)

variable {δ ε α : Type}

/-- A map of drivers under which each action mirrors the action of the same name. -/
structure Mirrored [Driver δ] [Driver ε] (f : δ → ε) : Prop where
  isConnected : ∀ d, Driver.isConnected (f d) = Driver.isConnected d
  connect : Mirrors f Driver.connect Driver.connect
  disconnect : Mirrors f Driver.disconnect Driver.disconnect
  execute : ∀ statement, Mirrors f (Driver.execute statement) (Driver.execute statement)
  mark : ∀ t, Mirrors f (Driver.mark t) (Driver.mark t)
  listTables : Mirrors f Driver.listTables Driver.listTables
  listColumns : ∀ table, Mirrors f (Driver.listColumns table) (Driver.listColumns table)
  lastInsertId : Mirrors f Driver.lastInsertId Driver.lastInsertId

namespace Mirrored

variable [Driver δ] [Driver ε] {f : δ → ε}

/-- An update is made of checks that do not ask the driver and of one statement. -/
theorem update (hf : Mirrored f) (table : String) (conditions : Condition) (fields : Fields)
    (everyRow : Bool) :
    Mirrors f (Driver.update table conditions fields everyRow)
      (Driver.update table conditions fields everyRow) := by
  refine .bind (.ofExcept _) fun _ => ?_
  refine .bind (.ofExcept _) fun statement => ?_
  refine .bind (hf.execute _) fun result => ?_
  exact .pure _

theorem delete (hf : Mirrored f) (table : String) (conditions : Condition) (everyRow : Bool) :
    Mirrors f (Driver.delete table conditions everyRow)
      (Driver.delete table conditions everyRow) := by
  refine .bind (.ofExcept _) fun _ => ?_
  refine .bind (hf.execute _) fun result => ?_
  exact .pure _

end Mirrored

/-! ## Watched drivers

A watched driver is mapped to the driver that is watched. -/

/-- What is watched is done as it would be unwatched. This holds by definition. -/
theorem mirrors_watch (call : Except Error α → Call) (action : Action δ α) :
    Mirrors Watched.driver (Watched.watch call action) action := fun _ => rfl

/-- All actions of a watched driver are watched ones. -/
theorem mirrored_watched [Driver δ] : Mirrored (Watched.driver : Watched δ → δ) where
  isConnected _ := rfl
  connect := mirrors_watch _ _
  disconnect := mirrors_watch _ _
  execute _ := mirrors_watch _ _
  mark _ := mirrors_watch _ _
  listTables := mirrors_watch _ _
  listColumns _ := mirrors_watch _ _
  lastInsertId := mirrors_watch _ _

/-! ## Invariant properties

The drivers with a property form a subtype, if no action leads out of it. Mapped to the drivers
themselves, they mirror them, so whatever is done with a driver that has the property can be done
within the subtype, and what is left has the property by its type. -/

/-- A property of drivers that no action of a driver ends. -/
structure Invariant [Driver δ] (P : δ → Prop) : Prop where
  connect : ∀ d, P d → P (Driver.connect.perform d).2
  disconnect : ∀ d, P d → P (Driver.disconnect.perform d).2
  execute : ∀ statement d, P d → P ((Driver.execute statement).perform d).2
  mark : ∀ t d, P d → P ((Driver.mark t).perform d).2
  listTables : ∀ d, P d → P (Driver.listTables.perform d).2
  listColumns : ∀ table d, P d → P ((Driver.listColumns table).perform d).2
  lastInsertId : ∀ d, P d → P (Driver.lastInsertId.perform d).2

variable {P : δ → Prop}

/-- An action that does not end a property, on what has it. -/
def within (action : Action δ α) (h : ∀ d, P d → P (action.perform d).2) : Action (Subtype P) α :=
  Action.ofRun fun d => ((action.perform d.1).1, ⟨(action.perform d.1).2, h d.1 d.2⟩)

/-- An action on drivers that keep a property is the action itself, as far as the driver is
concerned. -/
theorem mirrors_within (action : Action δ α) (h : ∀ d, P d → P (action.perform d).2) :
    Mirrors Subtype.val (within action h) action := fun _ => rfl

variable [Driver δ]

/-- The drivers with an invariant property are drivers themselves. -/
@[reducible] def Invariant.driver (h : Invariant P) : Driver (Subtype P) where
  name d := Driver.name d.1
  dialect d := Driver.dialect d.1
  isConnected d := Driver.isConnected d.1
  affected d := Driver.affected d.1
  connect := within Driver.connect h.connect
  disconnect := within Driver.disconnect h.disconnect
  execute statement := within (Driver.execute statement) (h.execute statement)
  mark t := within (Driver.mark t) (h.mark t)
  listTables := within Driver.listTables h.listTables
  listColumns table := within (Driver.listColumns table) (h.listColumns table)
  lastInsertId := within Driver.lastInsertId h.lastInsertId

/-- Each action of such a driver is an action within the property. -/
theorem Invariant.mirrored (h : Invariant P) :
    letI := h.driver
    Mirrored (Subtype.val : Subtype P → δ) :=
  let _ := h.driver
  { isConnected := fun _ => rfl
    connect := mirrors_within _ _
    disconnect := mirrors_within _ _
    execute := fun _ => mirrors_within _ _
    mark := fun _ => mirrors_within _ _
    listTables := mirrors_within _ _
    listColumns := fun _ => mirrors_within _ _
    lastInsertId := mirrors_within _ _ }

end EntityMapper.Driver

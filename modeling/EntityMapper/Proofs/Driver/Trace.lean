import EntityMapper.Proofs.Driver.Watched

/-!
# Calls of actions

What an action asks of a driver is the list of calls that it adds to those made before. `Ensures`
speaks of these calls together with the result and the state that is left, and goes from the parts
of an action to the whole (`Ensures.bind`); `Calls` is the special case of a property that every
single call has.

## Structure

* `Ensures` — a relation between the calls of an action, its result and its last state. `bind` puts
  two together: the calls of the second come behind those of the first.
* `Calls` — every call has a property.
* `Keeps` — a part of the state is the same afterwards.
* `ensures_watch` — the one place where calls come from: an action of a watched driver makes one
  call.
-/

namespace EntityMapper

/-- A state with a list of the calls that were made. -/
class Traced (σ : Type) where
  calls : σ → List Call

namespace Action

open Traced (calls)

variable {σ τ α β : Type} [Traced σ] [Traced τ]

/-- The action adds calls to those made before, and these are, together with its result and the
state it leaves, such as `Q` says. -/
def Ensures (action : Action σ α) (s : σ) (Q : List Call → Except Error α → σ → Prop) : Prop :=
  ∃ made, calls (action.perform s).2 = calls s ++ made
    ∧ Q made (action.perform s).1 (action.perform s).2

theorem Ensures.mono {action : Action σ α} {s : σ} {Q R : List Call → Except Error α → σ → Prop}
    (h : action.Ensures s Q) (hQR : ∀ made result left, Q made result left → R made result left) :
    action.Ensures s R := by
  obtain ⟨made, hcalls, hQ⟩ := h
  exact ⟨made, hcalls, hQR _ _ _ hQ⟩

/-- The result and the state that is left are those of performing the action. -/
theorem Ensures.performed {action : Action σ α} {s : σ} {Q : List Call → Except Error α → σ → Prop}
    (h : action.Ensures s Q) :
    action.Ensures s fun made result left => Q made result left
      ∧ action.perform s = (result, left) := by
  obtain ⟨made, hcalls, hQ⟩ := h
  exact ⟨made, hcalls, hQ, rfl⟩

/-- An action that makes no calls ensures what holds of its result with no calls. -/
theorem Ensures.still {action : Action σ α} {s : σ} {Q : List Call → Except Error α → σ → Prop}
    (hcalls : calls (action.perform s).2 = calls s)
    (h : Q [] (action.perform s).1 (action.perform s).2) :
    action.Ensures s Q :=
  ⟨[], by rw [hcalls, List.append_nil], h⟩

/-- What two actions do one after the other. If the first one fails, the second one does nothing. -/
theorem Ensures.bind {action : Action σ α} {next : α → Action σ β} {s : σ}
    {Q : List Call → Except Error α → σ → Prop} {R : List Call → Except Error β → σ → Prop}
    (h : action.Ensures s Q)
    (hok : ∀ made a left, Q made (.ok a) left →
      (next a).Ensures left fun more result last => R (made ++ more) result last)
    (herror : ∀ made e left, Q made (.error e) left → R made (.error e) left) :
    (action >>= next).Ensures s R := by
  obtain ⟨made, hcalls, hQ⟩ := h
  rw [Ensures, perform_bind]
  -- the calls of the first action are there in either case
  rcases hp : action.perform s with ⟨result, left⟩
  rw [hp] at hcalls hQ
  cases result with
  | error e => exact ⟨made, hcalls, herror made e left hQ⟩
  | ok a =>
    obtain ⟨more, hmore, hR⟩ := hok made a left hQ
    exact ⟨made ++ more, by rw [hmore, hcalls, List.append_assoc], hR⟩

/-- What is worked out before an action may fail, but makes no calls and leaves the state as it is.
-/
theorem Ensures.bindExcept {result : Except Error α} {next : α → Action σ β} {s : σ}
    {Q : List Call → Except Error β → σ → Prop} (hok : ∀ a, result = .ok a → (next a).Ensures s Q)
    (herror : ∀ e, result = .error e → Q [] (.error e) s) :
    (ofExcept result >>= next).Ensures s Q := by
  refine Ensures.bind (Q := fun made r left => made = [] ∧ r = result ∧ left = s)
    (.still rfl ⟨rfl, rfl, rfl⟩) ?_ ?_
  · rintro made a left ⟨rfl, ha, rfl⟩
    exact hok a ha.symm
  · rintro made e left ⟨rfl, he, rfl⟩
    exact herror e he.symm

/-- What is done on a part that keeps the calls is done on the whole. -/
theorem Ensures.on {part : σ → τ} {replace : σ → τ → σ} {action : Action τ α} {s : σ}
    {Q : List Call → Except Error α → σ → Prop} (hpart : calls (part s) = calls s)
    (hreplace : ∀ t, calls (replace s t) = calls t)
    (h : action.Ensures (part s) fun made result left => Q made result (replace s left)) :
    (Action.on part replace action).Ensures s Q := by
  obtain ⟨made, hcalls, hQ⟩ := h
  exact ⟨made, by rw [perform_on, hreplace, hcalls, hpart], hQ⟩

/-! ## Properties of single calls

Many properties of a list of calls are properties of each call. For these no result and no state has
to be carried along, and one lemma for each way to build an action is enough. -/

/-- An action each call of which has a property. -/
def Calls (P : Call → Prop) (action : Action σ α) : Prop :=
  ∀ s, action.Ensures s fun made _ _ => ∀ c ∈ made, P c

namespace Calls

variable {P Q : Call → Prop}

/-- The property of single calls may be weakened. -/
theorem mono {action : Action σ α} (h : action.Calls P) (hPQ : ∀ c, P c → Q c) : action.Calls Q :=
  fun s => (h s).mono fun _ _ _ hmade c hc => hPQ c (hmade c hc)

/-- An action that makes no calls has no call without the property. -/
theorem still {action : Action σ α} (h : ∀ s, calls (action.perform s).2 = calls s) :
    action.Calls P :=
  fun s => .still (h s) (by simp)

/-- No call is made for a result that is there. -/
theorem pure (a : α) : (Pure.pure a : Action σ α).Calls P := still fun _ => rfl

theorem throw (e : Error) : (MonadExcept.throw e : Action σ α).Calls P := still fun _ => rfl

theorem ofExcept (result : Except Error α) : (Action.ofExcept result : Action σ α).Calls P :=
  still fun _ => rfl

theorem ask (f : σ → α) : (Action.ask f).Calls P := still fun _ => rfl

/-- Two actions one after the other make the calls of both. -/
theorem bind {action : Action σ α} {next : α → Action σ β} (h : action.Calls P)
    (hnext : ∀ a, (next a).Calls P) : (action >>= next).Calls P :=
  fun s => (h s).bind
    (fun _ a left hmade => (hnext a left).mono fun _ _ _ hmore c hc =>
      (List.mem_append.mp hc).elim (hmade c) (hmore c))
    (fun _ _ _ hmade => hmade)

/-- Behind something that was worked out, only its successes have to be followed. -/
theorem bindExcept {result : Except Error α} {next : α → Action σ β}
    (h : ∀ a, result = .ok a → (next a).Calls P) : (Action.ofExcept result >>= next).Calls P :=
  fun s => .bindExcept (fun a ha => h a ha s) (by simp)

theorem on {part : σ → τ} {replace : σ → τ → σ} {action : Action τ α}
    (hpart : ∀ s, calls (part s) = calls s) (hreplace : ∀ s t, calls (replace s t) = calls t)
    (h : action.Calls P) : (Action.on part replace action).Calls P :=
  fun s => .on (hpart s) (hreplace s) (h (part s))

/-- A loop makes the calls of its rounds. Induction on the items. -/
theorem forM {γ : Type} {items : List γ} {action : γ → Action σ PUnit}
    (h : ∀ x, (action x).Calls P) :
    (items.forM action).Calls P := by
  induction items with
  | nil => exact pure ()
  | cons x rest ih => exact bind (h x) fun _ => ih

/-- An action that is caught makes its own calls, and those of the handler if it fails. -/
theorem tryCatch {action : Action σ α} {handle : Error → Action σ α} (h : action.Calls P)
    (hhandle : ∀ e, (handle e).Calls P) : (MonadExcept.tryCatch action handle).Calls P := by
  intro s
  obtain ⟨made, hcalls, hmade⟩ := h s
  rw [Ensures, perform_tryCatch]
  rcases hp : action.perform s with ⟨result, left⟩
  rw [hp] at hcalls
  cases result with
  | ok a => exact ⟨made, hcalls, hmade⟩
  | error e =>
    obtain ⟨more, hmore, hhandled⟩ := hhandle e left
    refine ⟨made ++ more, by rw [hmore, hcalls, List.append_assoc], ?_⟩
    exact List.forall_mem_append.mpr ⟨hmade, hhandled⟩

end Calls

/-! ## What actions leave alone

The same for a part of the state that no action touches. -/

/-- An action that does not change what `f` reads from the state. -/
def Keeps {γ : Type} (f : σ → γ) (action : Action σ α) : Prop := ∀ s, f (action.perform s).2 = f s

namespace Keeps

variable {γ : Type} {f : σ → γ}

omit [Traced σ]

/-- Nothing is changed for a result that is there. -/
theorem pure (a : α) : (Pure.pure a : Action σ α).Keeps f := fun _ => rfl

theorem ofExcept (result : Except Error α) : (Action.ofExcept result : Action σ α).Keeps f :=
  fun _ => rfl

theorem ask (g : σ → α) : (Action.ask g).Keeps f := fun _ => rfl

/-- Two actions leave alone what each of them does. -/
theorem bind {action : Action σ α} {next : α → Action σ β} (h : action.Keeps f)
    (hnext : ∀ a, (next a).Keeps f) : (action >>= next).Keeps f := by
  intro s
  have hs := h s
  rw [perform_bind]
  rcases hp : action.perform s with ⟨result, left⟩
  rw [hp] at hs
  cases result with
  | error e => exact hs
  | ok a => exact (hnext a left).trans hs

end Keeps

end Action

/-! ## Where calls are kept

A watched driver keeps the list itself; states that contain a driver show the list of
their driver. -/

namespace Watched

variable {δ : Type} {α : Type}

instance : Traced (Watched δ) := ⟨Watched.calls⟩

/-- A watched action makes one call, with its own result for the answer. -/
theorem ensures_watch (call : Except Error α → Call) (action : Action δ α) (w : Watched δ) :
    (watch call action).Ensures w fun made result left =>
      made = [call result] ∧ (result, left.driver) = action.perform w.driver :=
  ⟨_, rfl, rfl, rfl⟩

/-- All calls of a watched call have what this call has, whatever the answer. -/
theorem calls_watch {P : Call → Prop} {call : Except Error α → Call} (h : ∀ answer, P (call answer))
    (action : Action δ α) : (watch call action).Calls P :=
  fun w => (ensures_watch call action w).mono fun made result _ hmade => by
    rw [hmade.1]
    exact List.forall_mem_singleton.mpr (h result)

end Watched

end EntityMapper

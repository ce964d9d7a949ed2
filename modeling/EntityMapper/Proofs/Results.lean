import Mathlib.Data.List.Forall2

/-!
# Results and faults

What is worked out in steps is a result only if each step has one; otherwise the first fault is the
outcome. For a list of items this means that there is a result for each item, or else the fault of
the first item that has one. An item is found by its name if no other item has it.
-/

namespace EntityMapper

variable {α β ε : Type}

/-! ## Steps

Two steps, and a step behind which something is made of the result. -/

/-- If two steps have a result, the first one has. -/
theorem exists_of_bind {first : Except ε α} {next : α → Except ε β} {b : β}
    (h : (first >>= next) = .ok b) :
    ∃ a, first = .ok a ∧ next a = .ok b := by
  cases first with
  | error fault => cases h
  | ok a => exact ⟨a, rfl, h⟩

/-- What was made of something that was worked out. -/
theorem exists_of_made {make : α → β} {first : Except ε α} {b : β}
    (h : (do return make (← first)) = Except.ok b) : ∃ a, first = .ok a ∧ make a = b := by
  obtain ⟨a, hfirst, hmade⟩ := exists_of_bind h
  exact ⟨a, hfirst, Except.ok.inj hmade⟩

/-! ## Names

Lists in which every item has a name of its own. -/

/-- What is looked for by a name that it shares with nothing else is found. -/
theorem find?_of_nodup {name : α → String} {items : List α}
    (hnames : (items.map name).Nodup) {item : α}
    (h : item ∈ items) : items.find? (name · == name item) = some item := by
  induction items with
  | nil => cases h
  | cons other rest ih =>
    rw [List.map_cons, List.nodup_cons] at hnames
    rcases List.mem_cons.mp h with rfl | hrest
    · exact List.find?_cons_of_pos (beq_self_eq_true _)
    · have hne : name other ≠ name item :=
        fun hother => hnames.1 (hother ▸ List.mem_map_of_mem hrest)
      rw [List.find?_cons_of_neg (by simpa using hne), ih hnames.2 hrest]

/-! ## Items

Lists of items that are worked out one after the other. -/

variable {f : α → Except ε β}

/-- The results of a list are those of its items, one by one. Induction on the items. -/
theorem mapM_eq_ok_iff {items : List α} {results : List β} :
    items.mapM f = .ok results
      ↔ List.Forall₂ (fun item result => f item = .ok result) items results := by
  induction items generalizing results with
  | nil => cases results <;> simp [pure, Except.pure]
  | cons item rest ih =>
    rw [List.mapM_cons]
    cases hitem : f item with
    | error fault => cases results <;> simp [bind, Except.bind, hitem]
    | ok result =>
      cases hrest : rest.mapM f with
      | error fault => cases results <;> simp [bind, Except.bind, hitem, ← ih, hrest]
      | ok more => cases results <;> simp [bind, Except.bind, pure, Except.pure, hitem, ← ih, hrest]

/-- Where a list has results, each of its items has one. -/
theorem result_of_mapM_eq_ok {items : List α} {results : List β}
    (h : items.mapM f = .ok results) {item : α}
    (hitem : item ∈ items) : ∃ result, f item = .ok result := by
  have hall := mapM_eq_ok_iff.mp h
  clear h
  induction hall with
  | nil => cases hitem
  | cons hfirst _ ih =>
    rcases List.mem_cons.mp hitem with rfl | hitem
    · exact ⟨_, hfirst⟩
    · exact ih hitem

/-- The fault is that of the first item which has one. -/
theorem first_of_mapM_eq_error {items : List α} {fault : ε} (h : items.mapM f = .error fault) :
    ∃ before item after, items = before ++ item :: after
      ∧ (∀ earlier ∈ before, ∃ result, f earlier = .ok result) ∧ f item = .error fault := by
  induction items with
  | nil => cases h
  | cons item rest ih =>
    rw [List.mapM_cons] at h
    cases hitem : f item with
    | error other =>
      rw [hitem] at h
      obtain rfl := Except.error.inj h
      exact ⟨[], item, rest, rfl, by simp, hitem⟩
    | ok result =>
      -- the first item has a result, so the fault comes from the rest
      have hrest : rest.mapM f = .error fault := by
        rw [hitem] at h
        cases hrest : rest.mapM f with
        | error other => rw [hrest] at h; exact h
        | ok more => rw [hrest] at h; cases h
      obtain ⟨before, failing, after, rfl, hbefore, hfailing⟩ := ih hrest
      refine ⟨item :: before, failing, after, rfl, ?_, hfailing⟩
      intro earlier hearlier
      rcases List.mem_cons.mp hearlier with rfl | hearlier
      · exact ⟨result, hitem⟩
      · exact hbefore earlier hearlier

end EntityMapper

import Mathlib.Data.List.TakeWhile

/-!
# Cutting, splitting and joining lists

A list is cut where its front elements of one kind end, split wherever a separator stands, and
joined from parts with a separator between them. The library has that splitting undoes joining
(`List.splitOn_intercalate`) and joining undoes splitting (`List.intercalate_splitOn`); what is
added here says where an element of the outcome comes from (`mem_splitOn`, `mem_intercalate`), and
the same for separators that are told by a property (`splitOnP_intercalate`).
-/

namespace EntityMapper

variable {α : Type}

/-! ## Cutting -/

section Cut

variable {p : α → Bool} {front rest : List α}

/-- `takeWhile` takes the front of a list if all of it has the property and what comes next has not.
-/
theorem takeWhile_append (hfront : ∀ a ∈ front, p a = true)
    (hrest : ∀ a ∈ rest.head?, p a = false) :
    (front ++ rest).takeWhile p = front := by
  rw [List.takeWhile_append_of_pos hfront]
  cases rest with
  | nil => exact List.append_nil _
  | cons a rest => rw [List.takeWhile_cons_of_neg (by simp [hrest a rfl]), List.append_nil]

/-- `dropWhile` leaves the rest of such a list. -/
theorem dropWhile_append (hfront : ∀ a ∈ front, p a = true)
    (hrest : ∀ a ∈ rest.head?, p a = false) :
    (front ++ rest).dropWhile p = rest := by
  rw [List.dropWhile_append_of_pos hfront]
  cases rest with
  | nil => rfl
  | cons a rest => rw [List.dropWhile_cons_of_neg (by simp [hrest a rfl])]

end Cut

/-! ## Splitting -/

/-- The elements of a part stood in the list that was split, and none of them is the separator. -/
theorem mem_splitOn [DecidableEq α] {separator a : α} {s part : List α}
    (hpart : part ∈ s.splitOn separator) (ha : a ∈ part) : a ∈ s ∧ a ≠ separator := by
  induction s generalizing part with
  | nil =>
    rw [List.splitOn_nil] at hpart
    obtain rfl := List.mem_singleton.mp hpart
    exact absurd ha List.not_mem_nil
  | cons b rest ih =>
    rw [List.splitOn_cons_eq_if_modifyHead] at hpart
    split at hpart
    next =>
      rcases List.mem_cons.mp hpart with rfl | hpart
      · exact absurd ha List.not_mem_nil
      · exact (ih hpart ha).imp_left (List.mem_cons_of_mem _)
    next hb =>
      -- `b` goes in front of the first part, and the other parts are those of `rest`
      cases hparts : rest.splitOn separator with
      | nil => exact absurd hparts (List.splitOn_ne_nil separator rest)
      | cons first parts =>
        simp only [hparts, List.modifyHead_cons, List.mem_cons] at hpart ih
        rcases hpart with rfl | hpart
        · rcases List.mem_cons.mp ha with rfl | ha
          · exact ⟨List.mem_cons_self, by simpa using hb⟩
          · exact (ih (.inl rfl) ha).imp_left (List.mem_cons_of_mem _)
        · exact (ih (.inr hpart) ha).imp_left (List.mem_cons_of_mem _)

/-- Splitting at a separator takes apart what it was put between. This is `List.splitOn_intercalate`
for a separator that is told by the property `p`, which no element of a part has. -/
theorem splitOnP_intercalate {p : α → Bool} {separator : α} (hseparator : p separator = true)
    {parts : List (List α)} (hne : parts ≠ []) (h : ∀ part ∈ parts, ∀ a ∈ part, p a = false) :
    ([separator].intercalate parts).splitOnP p = parts := by
  induction parts with
  | nil => exact absurd rfl hne
  | cons part rest ih =>
    obtain ⟨hpart, hrest⟩ := List.forall_mem_cons.mp h
    cases rest with
    | nil =>
      rw [List.intercalate_singleton]
      exact List.splitOnP_eq_singleton hpart
    | cons next rest =>
      -- the first place of the separator is right behind the first part
      rw [List.intercalate_cons_cons, List.append_assoc, List.singleton_append,
        List.splitOnP_append_cons_of_forall_mem hpart separator hseparator, ih (by simp) hrest]

/-! ## Joining -/

/-- An element of joined parts is in one of the parts, or else it is the separator. -/
theorem mem_intercalate {separator a : α} {parts : List (List α)}
    (h : a ∈ [separator].intercalate parts) : (∃ part ∈ parts, a ∈ part) ∨ a = separator := by
  induction parts with
  | nil => exact absurd h List.not_mem_nil
  | cons part rest ih =>
    cases rest with
    | nil =>
      rw [List.intercalate_singleton] at h
      exact .inl ⟨part, by simp, h⟩
    | cons next rest =>
      rw [List.intercalate_cons_cons, List.append_assoc, List.singleton_append] at h
      -- in the first part, or the separator behind it, or in what is left
      rcases List.mem_append.mp h with h | h
      · exact .inl ⟨part, by simp, h⟩
      · rcases List.mem_cons.mp h with h | h
        · exact .inr h
        · exact (ih h).imp_left fun ⟨part, hpart, ha⟩ => ⟨part, List.mem_cons_of_mem _ hpart, ha⟩

end EntityMapper

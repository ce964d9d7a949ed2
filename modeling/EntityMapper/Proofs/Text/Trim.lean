import Mathlib.Data.List.TakeWhile
import EntityMapper.Text.Blank

/-!
# What trimming drops

A text is what trimming leaves of it, with nothing but blanks on either side. Conversely, a text
that neither begins nor ends with a blank is what is left of it once blanks are put around it.
-/

namespace EntityMapper.Text

/-- What is dropped at the beginning is blank. -/
theorem exists_append_trimStart (s : List Char) :
    ∃ blanks, (∀ c ∈ blanks, isBlank c = true) ∧ s = blanks ++ trimStart s :=
  ⟨s.takeWhile isBlank, fun _ hc => List.mem_takeWhile_imp hc,
    List.takeWhile_append_dropWhile.symm⟩

/-- What is dropped at the end is blank. Induction on the text: a character is kept if anything
behind it is kept, or if it is no blank itself. -/
theorem exists_trimEnd_append (s : List Char) :
    ∃ blanks, (∀ c ∈ blanks, isBlank c = true) ∧ s = trimEnd s ++ blanks := by
  induction s with
  | nil => exact ⟨[], by simp, rfl⟩
  | cons c rest ih =>
    obtain ⟨blanks, hblanks, hrest⟩ := ih
    rw [trimEnd]
    cases hkept : trimEnd rest with
    | cons d kept => exact ⟨blanks, hblanks, by simpa [hkept] using hrest⟩
    | nil =>
      have hrest : rest = blanks := by simpa [hkept] using hrest
      -- nothing is kept behind the character, so it is the last one that can be
      by_cases hc : isBlank c
      · exact ⟨c :: rest, by simpa [hc, hrest] using hblanks, by simp [hc]⟩
      · exact ⟨rest, by simpa [hrest] using hblanks, by simp [hc]⟩

/-- A text is its trimmed text between blanks. -/
theorem exists_append_trim_append (s : List Char) :
    ∃ before after, (∀ c ∈ before, isBlank c = true) ∧ (∀ c ∈ after, isBlank c = true)
      ∧ s = before ++ (trim s ++ after) := by
  obtain ⟨before, hbefore, hs⟩ := exists_append_trimStart s
  obtain ⟨after, hafter, hstart⟩ := exists_trimEnd_append (trimStart s)
  exact ⟨before, after, hbefore, hafter, by rw [trim, ← hstart, ← hs]⟩

theorem isBlankText_iff (s : String) : isBlankText s = true ↔ trimmed s = "" := by
  rw [trimmed, String.ofList_eq_empty_iff, trim_eq_nil_iff, isBlankText]

/-! ## Blanks that were put there

The other direction: blanks are put around a text, and trimming gives the text back. -/

/-- Blanks at the beginning are dropped with those of the text. -/
theorem trimStart_append {blanks : List Char} (h : ∀ c ∈ blanks, isBlank c = true) (s : List Char) :
    trimStart (blanks ++ s) = trimStart s :=
  List.dropWhile_append_of_pos h

theorem trimEnd_append {blanks : List Char} (h : ∀ c ∈ blanks, isBlank c = true) (s : List Char) :
    trimEnd (s ++ blanks) = trimEnd s := by
  induction s with
  | nil => exact trimEnd_eq_nil_iff.mpr (List.all_eq_true.mpr h)
  | cons c rest ih => rw [List.cons_append, trimEnd, trimEnd, ih]

theorem trimStart_eq_self {s : List Char} (h : ∀ c ∈ s.head?, isBlank c = false) :
    trimStart s = s := by
  cases s with
  | nil => rfl
  | cons c rest => rw [trimStart, List.dropWhile_cons_of_neg (by simp [h c rfl])]

theorem trimEnd_eq_self {s : List Char} (h : ∀ c ∈ s.getLast?, isBlank c = false) :
    trimEnd s = s := by
  induction s with
  | nil => rfl
  | cons c rest ih =>
    rw [trimEnd]
    cases rest with
    | nil => simp [trimEnd, h c rfl]
    | cons d rest =>
      rw [ih (by simpa using h)]

/-- Blanks around a text without blanks at its ends do not count. -/
theorem trim_append_append {before s after : List Char} (hbefore : ∀ c ∈ before, isBlank c = true)
    (hafter : ∀ c ∈ after, isBlank c = true) (hhead : ∀ c ∈ s.head?, isBlank c = false)
    (hlast : ∀ c ∈ s.getLast?, isBlank c = false) : trim (before ++ (s ++ after)) = s := by
  rw [trim, trimStart_append hbefore]
  cases s with
  | nil =>
    -- nothing but blanks is left, and nothing of them
    rw [List.nil_append]
    exact trim_eq_nil_iff.mpr (List.all_eq_true.mpr hafter)
  | cons c rest =>
    rw [trimStart_eq_self (by simpa using hhead), trimEnd_append hafter, trimEnd_eq_self hlast]

end EntityMapper.Text

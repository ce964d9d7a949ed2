import EntityMapper.Text.Blank
import EntityMapper.Text.Case

/-!
# Letters and digits of ASCII

The letters and digits of ASCII are told by ranges of code points. So none of them is a blank, and
the case of a letter is a matter of the range that it is in. A text of ASCII is lowered one
character at a time.
-/

namespace EntityMapper.Ascii

variable {c : Char}

/-! ## Ranges -/

/-- Capitals are the letters from `A` to `Z`. -/
theorem isUpper_iff : c.isUpper = true ↔ 'A' ≤ c ∧ c ≤ 'Z' := decide_eq_true_iff

theorem isLower_iff : c.isLower = true ↔ 'a' ≤ c ∧ c ≤ 'z' := by
  change (decide ('a' ≤ c) && decide (c ≤ 'z')) = true ↔ _
  rw [Bool.and_eq_true, decide_eq_true_iff, decide_eq_true_iff]

theorem isDigit_iff : c.isDigit = true ↔ '0' ≤ c ∧ c ≤ '9' := by
  change (decide ('0' ≤ c) && decide (c ≤ '9')) = true ↔ _
  rw [Bool.and_eq_true, decide_eq_true_iff, decide_eq_true_iff]

theorem isAlpha_iff : c.isAlpha = true ↔ c.isUpper = true ∨ c.isLower = true := Bool.or_eq_true_iff

theorem isAlphanum_iff : c.isAlphanum = true ↔ c.isAlpha = true ∨ c.isDigit = true :=
  Bool.or_eq_true_iff

theorem isAlpha_of_isLower (h : c.isLower = true) : c.isAlpha = true := isAlpha_iff.mpr (.inr h)

theorem isAlphanum_of_isAlpha (h : c.isAlpha = true) : c.isAlphanum = true :=
  isAlphanum_iff.mpr (.inl h)

theorem isAlphanum_of_isDigit (h : c.isDigit = true) : c.isAlphanum = true :=
  isAlphanum_iff.mpr (.inr h)

/-- All letters and digits lie between `0` and `z`. -/
theorem toNat_bounds_of_isAlphanum (h : c.isAlphanum = true) : 48 ≤ c.toNat ∧ c.toNat ≤ 122 := by
  -- the three ranges, by code points
  have hranges : (65 ≤ c.toNat ∧ c.toNat ≤ 90) ∨ (97 ≤ c.toNat ∧ c.toNat ≤ 122) ∨
      (48 ≤ c.toNat ∧ c.toNat ≤ 57) := by
    rw [isAlphanum_iff, isAlpha_iff, isUpper_iff, isLower_iff, isDigit_iff, or_assoc] at h
    exact h
  omega

/-- All blanks lie before or behind that range. -/
theorem not_isBlank_of_isAlphanum (h : c.isAlphanum = true) : Text.isBlank c = false := by
  have hbounds := toNat_bounds_of_isAlphanum h
  simp only [Text.isBlank]
  simp
  omega

/-! ## Case -/

theorem toLower_of_isLower (h : c.isLower = true) : c.toLower = c := by
  have hlower : 97 ≤ c.toNat ∧ c.toNat ≤ 122 := isLower_iff.mp h
  refine dif_neg fun hrange => ?_
  have hupper : 65 ≤ c.toNat ∧ c.toNat ≤ 90 := hrange
  omega

theorem isAlpha_of_toUpper (h : c.toUpper.isUpper = true) : c.isAlpha = true := by
  by_cases hlower : c.isLower = true
  · exact isAlpha_of_isLower hlower
  · have hself : c.toUpper = c := dif_neg fun hrange => hlower (isLower_iff.mpr hrange)
    exact isAlpha_iff.mpr (.inl (hself ▸ h))

theorem toLower_of_not_isUpper (h : c.isUpper = false) : c.toLower = c := by
  refine dif_neg fun hrange => ?_
  rw [isUpper_iff.mpr hrange] at h
  cases h

/-! ## Code points of ASCII -/

/-- What holds of the first 128 code points is found out by trying them. -/
theorem of_forall_lt {P : Char → Prop} (h : ∀ n < 128, P (Char.ofNat n))
    (hc : c.toNat < 128) : P c := by
  rw [← Char.ofNat_toNat c]
  exact h _ hc

/-- Within ASCII, capitals are those of ASCII. -/
theorem isUpper_eq (hc : c.toNat < 128) : Text.isUpper c = c.isUpper := if_pos hc

/-- Within ASCII, a character is lowered to one character. -/
theorem lowerChar_eq (hc : c.toNat < 128) : Text.lowerChar c = [c.toLower] := if_pos hc

/-- No capital sigma is in the text, so nothing depends on what stands around a character. -/
theorem lowerFrom_eq {before s : List Char} (hs : ∀ c ∈ s, c.toNat < 128) :
    Text.lowerFrom before s = s.map Char.toLower := by
  induction s generalizing before with
  | nil => rfl
  | cons c rest ih =>
    obtain ⟨hc, hrest⟩ := List.forall_mem_cons.mp hs
    -- the sigma that depends on its surroundings lies beyond ASCII
    have hsigma : (c.toNat == 0x3A3) = false := beq_false_of_ne (by omega)
    rw [Text.lowerFrom, hsigma, Bool.false_and, Bool.false_and, if_neg Bool.false_ne_true,
      lowerChar_eq hc, ih hrest, List.map_cons, List.singleton_append]

theorem toList_lowercase {s : String} (hs : ∀ c ∈ s.toList, c.toNat < 128) :
    (Text.lowercase s).toList = s.toList.map Char.toLower := by
  rw [Text.lowercase, String.toList_ofList, lowerFrom_eq hs]

end EntityMapper.Ascii
